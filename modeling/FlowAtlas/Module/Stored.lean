import FlowAtlas.Graph.Stored
import FlowAtlas.Module.Instance

/-!
# Stored forms of units and module instances

How units, stream positions and module instances are written as JSON values and read back.
-/

set_option autoImplicit false

namespace FlowAtlas

namespace SoftwareUnit

/-- Write a unit. -/
def toJson (u : SoftwareUnit) : Json :=
  .record [("name", .ofString u.name), ("filename", .ofString u.filename),
    ("version", .ofString u.version), ("is_dynamic", .bool u.isDynamic)]

/-- Read a unit. The parts of its name are taken as they are written. -/
def ofJson? (j : Json) : Option SoftwareUnit := do
  let r ← JsonRecord.ofJson? ["name", "filename", "version", "is_dynamic"] j
  let name ← (r.get "name").required Json.string?
  let filename ← (r.get "filename").required Json.string?
  let version ← (r.get "version").required Json.string?
  let isDynamic ← (r.get "is_dynamic").required Json.bool?
  return ⟨name, filename, version, isDynamic⟩

instance : Stored SoftwareUnit := ⟨toJson, ofJson?⟩

end SoftwareUnit

namespace StreamKind

/-- Every stream. -/
def all : List StreamKind := [block, edge, crossModuleEdge]

/-- The name of a stream in stored values. -/
def text : StreamKind → String
  | block => "block"
  | edge => "edge"
  | crossModuleEdge => "cross_module_edge"

/-- Write a stream. -/
def toJson (s : StreamKind) : Json := .ofString s.text

/-- Read a stream. -/
def ofJson? (j : Json) : Option StreamKind := j.named? text all

instance : Stored StreamKind := ⟨toJson, ofJson?⟩

end StreamKind

namespace StreamCounters

/-- Write counters. -/
def toJson (c : StreamCounters) : Json :=
  .record [("block", .ofNat c.block.toNat), ("edge", .ofNat c.edge.toNat),
    ("cross_module_edge", .ofNat c.crossModuleEdge.toNat)]

/-- Read counters. -/
def ofJson? (j : Json) : Option StreamCounters := do
  let r ← JsonRecord.ofJson? ["block", "edge", "cross_module_edge"] j
  let block ← (r.get "block").required Json.word?
  let edge ← (r.get "edge").required Json.word?
  let crossModuleEdge ← (r.get "cross_module_edge").required Json.word?
  return ⟨block, edge, crossModuleEdge⟩

instance : Stored StreamCounters := ⟨toJson, ofJson?⟩

end StreamCounters

namespace StreamWindow

/-- Write a window. -/
def toJson (w : StreamWindow) : Json :=
  .record [("load", .ofNat w.load.toNat), ("unload", .ofNat w.unload.toNat)]

/-- Read a window. -/
def ofJson? (j : Json) : Option StreamWindow := do
  let r ← JsonRecord.ofJson? ["load", "unload"] j
  let load ← (r.get "load").required Json.word?
  let unload ← (r.get "unload").required Json.word?
  return ⟨load, unload⟩

instance : Stored StreamWindow := ⟨toJson, ofJson?⟩

end StreamWindow

namespace ModuleInstance

/-- Read the windows of the three streams, in the order of the streams. -/
def windowsOfJson? (j : Json) : Option (PerStream StreamWindow) := do
  match ← j.list? StreamWindow.ofJson? with
  | [block, edge, crossModuleEdge] => some ⟨block, edge, crossModuleEdge⟩
  | _ => none

/-- Write a module instance. -/
def toJson (i : ModuleInstance) : Json :=
  .record [("unit", i.unit.toJson), ("start", .ofNat i.start.toNat), ("end", .ofNat i.stop.toNat),
    ("windows", .array (i.windows.toList.map StreamWindow.toJson))]

/-- Read a module instance. -/
def ofJson? (j : Json) : Option ModuleInstance := do
  let r ← JsonRecord.ofJson? ["unit", "start", "end", "windows"] j
  let unit ← (r.get "unit").required UnitId.ofJson?
  let start ← (r.get "start").required Json.word?
  let stop ← (r.get "end").required Json.word?
  let windows ← (r.get "windows").required windowsOfJson?
  return ⟨unit, start, stop, windows⟩

instance : Stored ModuleInstance := ⟨toJson, ofJson?⟩

end ModuleInstance
end FlowAtlas
