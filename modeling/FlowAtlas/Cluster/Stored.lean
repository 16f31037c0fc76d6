import FlowAtlas.Cluster.Config
import FlowAtlas.Module.Stored

/-!
# Stored forms of clusters

How cluster specs, the shares of units in a cluster, and places in clusters are written as JSON
values and read back.
-/

set_option autoImplicit false

namespace FlowAtlas

namespace ClusterId

/-- Write the number of a cluster. -/
def toJson (c : ClusterId) : Json := .ofNat c.index

/-- Read the number of a cluster. -/
def ofJson? (j : Json) : Option ClusterId := (j.nat? 32).map mk

instance : Stored ClusterId := ⟨toJson, ofJson?⟩

end ClusterId

namespace ClusterSpec

/-- Write a spec. -/
def toJson (s : ClusterSpec) : Json :=
  .record [("name", .ofString s.name), ("units", .array (s.units.map SoftwareUnit.toJson)),
    ("is_dynamic", .bool s.isDynamic)]

/-- Read a spec. -/
def ofJson? (j : Json) : Option ClusterSpec := do
  let r ← JsonRecord.ofJson? ["name", "units", "is_dynamic"] j
  let name ← (r.get "name").required Json.string?
  let units ← (r.get "units").required (Json.list? SoftwareUnit.ofJson?)
  let isDynamic ← (r.get "is_dynamic").required Json.bool?
  return ⟨name, units, isDynamic⟩

instance : Stored ClusterSpec := ⟨toJson, ofJson?⟩

end ClusterSpec

namespace UnitShare

/-- Write the share of a unit. -/
def toJson (s : UnitShare) : Json :=
  .record [("unit", s.unit.toJson), ("executable_blocks", .ofNat s.executableBlocks)]

/-- Read the share of a unit. -/
def ofJson? (j : Json) : Option UnitShare := do
  let r ← JsonRecord.ofJson? ["unit", "executable_blocks"] j
  let unit ← (r.get "unit").required UnitId.ofJson?
  let executableBlocks ← (r.get "executable_blocks").required (Json.nat? 64)
  return ⟨unit, executableBlocks⟩

instance : Stored UnitShare := ⟨toJson, ofJson?⟩

end UnitShare

namespace ClusterNode

/-- Write a place. -/
def toJson (n : ClusterNode) : Json :=
  .record [("cluster", n.cluster.toJson), ("node", n.node.toJson)]

/-- Read a place. -/
def ofJson? (j : Json) : Option ClusterNode := do
  let r ← JsonRecord.ofJson? ["cluster", "node"] j
  let cluster ← (r.get "cluster").required ClusterId.ofJson?
  let node ← (r.get "node").required NodeId.ofJson?
  return ⟨cluster, node⟩

instance : Stored ClusterNode := ⟨toJson, ofJson?⟩

end ClusterNode
end FlowAtlas
