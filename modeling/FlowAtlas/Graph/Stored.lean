import FlowAtlas.Graph.Node
import FlowAtlas.Json.Stored

/-!
# Stored forms of nodes and edges

How the numbers, kinds and keys of nodes and edges are written as JSON values and read back. A
number is written bare, a kind by its name, and a key under the name of its variant.
-/

set_option autoImplicit false

namespace FlowAtlas

/-! ## Numbers -/

namespace UnitId

/-- Write the number of a unit. -/
def toJson (u : UnitId) : Json := .ofNat u.index

/-- Read the number of a unit. -/
def ofJson? (j : Json) : Option UnitId := (j.nat? 32).map mk

instance : Stored UnitId := ⟨toJson, ofJson?⟩

end UnitId

namespace NodeId

/-- Write the place of a node. -/
def toJson (n : NodeId) : Json := .ofNat n.index

/-- Read the place of a node. -/
def ofJson? (j : Json) : Option NodeId := (j.nat? 32).map mk

instance : Stored NodeId := ⟨toJson, ofJson?⟩

end NodeId

namespace EdgeId

/-- Write the place of an edge. -/
def toJson (e : EdgeId) : Json := .ofNat e.index

/-- Read the place of an edge. -/
def ofJson? (j : Json) : Option EdgeId := (j.nat? 32).map mk

instance : Stored EdgeId := ⟨toJson, ofJson?⟩

end EdgeId

/-! ## Kinds -/

namespace EdgeKind

/-- Write a kind of edge. -/
def toJson (k : EdgeKind) : Json := .ofString k.text

/-- Read a kind of edge. -/
def ofJson? (j : Json) : Option EdgeKind := j.named? text all

instance : Stored EdgeKind := ⟨toJson, ofJson?⟩

end EdgeKind

namespace NodeKind

/-- Write a kind of node. -/
def toJson (k : NodeKind) : Json := .ofString k.text

/-- Read a kind of node. -/
def ofJson? (j : Json) : Option NodeKind := j.named? text all

instance : Stored NodeKind := ⟨toJson, ofJson?⟩

end NodeKind

/-! ## Keys -/

namespace NodeKey

/-- Write a key. -/
def toJson : NodeKey → Json
  | block unit tag version =>
    .record [("Block", .record [("unit", unit.toJson), ("relative_tag", .ofNat tag.toNat),
      ("instance", .ofNat version.toNat)])]
  | boundary signature kind isCallback =>
    .record [("Boundary", .record [("signature_hash", .ofNat signature.toNat),
      ("kind", kind.toJson), ("is_callback", .bool isCallback)])]
  | processRoot => .ofString "ProcessRoot"

/-- Read the key of a block. -/
def blockOfJson? (j : Json) : Option NodeKey := do
  let r ← JsonRecord.ofJson? ["unit", "relative_tag", "instance"] j
  let unit ← (r.get "unit").required UnitId.ofJson?
  let tag ← (r.get "relative_tag").required Json.word?
  let version ← (r.get "instance").required Json.byte?
  return block unit tag version

/-- Read the key of a boundary node. -/
def boundaryOfJson? (j : Json) : Option NodeKey := do
  let r ← JsonRecord.ofJson? ["signature_hash", "kind", "is_callback"] j
  let signature ← (r.get "signature_hash").required Json.word?
  let kind ← (r.get "kind").required NodeKind.ofJson?
  let isCallback ← (r.get "is_callback").required Json.bool?
  return boundary signature kind isCallback

/-- Read a key. -/
def ofJson? (j : Json) : Option NodeKey := do
  match ← j.variant? with
  | ("Block", some fields) => blockOfJson? fields
  | ("Boundary", some fields) => boundaryOfJson? fields
  | ("ProcessRoot", carried) => if Json.isBare carried then some processRoot else none
  | _ => none

instance : Stored NodeKey := ⟨toJson, ofJson?⟩

end NodeKey
end FlowAtlas
