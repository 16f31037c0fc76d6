import FlowAtlas.SoftwareUnit

/-!
# Loaded modules

A *module instance* is one stay of a software unit in the memory of a process: an address range, and
for each of the three record streams the window of positions during which the unit was loaded. The
streams are written independently, so the windows differ.

* `ModuleHistory` follows loads and unloads as they happen. An unload ends the most recent stay of
  its unit at its address.
* `AddressMap.resolve?` finds the instance to which an address belongs at a stream position. Address
  ranges may be used again later, so the position is needed to tell; where more than one instance
  fits, none is taken.
-/

set_option autoImplicit false

namespace FlowAtlas

/-! ## Streams and windows -/

/-- The record streams of a trace. -/
inductive StreamKind
  | block
  | edge
  | crossModuleEdge
  deriving DecidableEq, Repr, Inhabited

/-- One value for each record stream. -/
structure PerStream (α : Type) where
  block : α
  edge : α
  crossModuleEdge : α
  deriving DecidableEq, Repr, Inhabited

namespace PerStream

variable {α β γ : Type}

/-- The value for a stream. -/
def get (p : PerStream α) : StreamKind → α
  | .block => p.block
  | .edge => p.edge
  | .crossModuleEdge => p.crossModuleEdge

/-- Change each value. -/
def map (f : α → β) (p : PerStream α) : PerStream β :=
  ⟨f p.block, f p.edge, f p.crossModuleEdge⟩

/-- Join two values stream by stream. -/
def zipWith (f : α → β → γ) (p : PerStream α) (q : PerStream β) : PerStream γ :=
  ⟨f p.block q.block, f p.edge q.edge, f p.crossModuleEdge q.crossModuleEdge⟩

/-- The values in the order of the streams. -/
def toList (p : PerStream α) : List α := [p.block, p.edge, p.crossModuleEdge]

end PerStream

/-- How many records each stream held at some moment. -/
abbrev StreamCounters := PerStream UInt64

/-- The positions from `load` up to but without `unload`. -/
structure StreamWindow where
  load : UInt64
  unload : UInt64
  deriving DecidableEq, Repr, Inhabited

namespace StreamWindow

/-- The end of a window that is still open. -/
def openEnd : UInt64 := 0xffffffffffffffff

/-- A window that nothing has closed yet. -/
def openAt (load : UInt64) : StreamWindow := ⟨load, openEnd⟩

/-- Whether a position lies in the window. -/
def contains (w : StreamWindow) (position : Nat) : Bool :=
  w.load.toNat ≤ position && position < w.unload.toNat

end StreamWindow

/-! ## Instances -/

/-- One stay of a unit in memory. The address range includes both its ends. -/
structure ModuleInstance where
  unit : UnitId
  start : UInt64
  stop : UInt64
  windows : PerStream StreamWindow
  deriving DecidableEq, Repr, Inhabited

namespace ModuleInstance

/-- A stay that begins at these counters. -/
def loadedAt (unit : UnitId) (start stop : UInt64) (counters : StreamCounters) : ModuleInstance :=
  ⟨unit, start, stop, counters.map .openAt⟩

/-- End the stay at these counters. -/
def unload (i : ModuleInstance) (counters : StreamCounters) : ModuleInstance :=
  { i with windows := i.windows.zipWith (fun w c => { w with unload := c }) counters }

/-- Whether a window is still open. -/
def isLoaded (i : ModuleInstance) : Bool :=
  i.windows.toList.any (·.unload == StreamWindow.openEnd)

/-- Whether an address lies in the range. -/
def containsAddress (i : ModuleInstance) (tag : UInt64) : Bool :=
  i.start ≤ tag && tag ≤ i.stop

/-- Whether an address at a stream position belongs to this stay. -/
def covers (i : ModuleInstance) (tag : UInt64) (stream : StreamKind) (position : Nat) : Bool :=
  i.containsAddress tag && (i.windows.get stream).contains position

/-- How far the last address lies above the first, zero when it lies below. -/
def span (i : ModuleInstance) : UInt64 :=
  if i.start ≤ i.stop then i.stop - i.start else 0

end ModuleInstance

/-! ## Following loads and unloads -/

/-- The instances seen so far, the newest first. -/
structure ModuleHistory where
  newestFirst : List ModuleInstance := []
  deriving DecidableEq, Repr, Inhabited

namespace ModuleHistory

/-- Nothing was loaded. -/
def empty : ModuleHistory := {}

/-- A unit is loaded. -/
def load (h : ModuleHistory) (unit : UnitId) (start stop : UInt64) (counters : StreamCounters) :
    ModuleHistory :=
  ⟨.loadedAt unit start stop counters :: h.newestFirst⟩

/-- End the first open stay of a unit at an address. -/
def closeFirst? (unit : UnitId) (start : UInt64) (counters : StreamCounters) :
    List ModuleInstance → Option (List ModuleInstance)
  | [] => none
  | i :: rest =>
    if i.unit = unit ∧ i.start = start ∧ i.isLoaded then some (i.unload counters :: rest)
    else (closeFirst? unit start counters rest).map (i :: ·)

/-- A unit is unloaded, which ends its most recent open stay at that address. Without such a stay
there is no answer. -/
def unload? (h : ModuleHistory) (unit : UnitId) (start : UInt64) (counters : StreamCounters) :
    Option ModuleHistory :=
  (closeFirst? unit start counters h.newestFirst).map ModuleHistory.mk

/-- How many instances were loaded. -/
def size (h : ModuleHistory) : Nat := h.newestFirst.length

/-- The instances in the order in which they were loaded. -/
def toList (h : ModuleHistory) : List ModuleInstance := h.newestFirst.reverse

end ModuleHistory

/-! ## Finding the instance of an address -/

/-- Instances by ascending start and, among equal starts, ascending end. -/
structure AddressMap where
  instances : List ModuleInstance := []
  /-- No instance spans more than this. -/
  maxSpan : UInt64 := 0
  deriving DecidableEq, Repr, Inhabited

namespace AddressMap

/-- Whether the first instance may stand before the second. -/
def precedes (a b : ModuleInstance) : Bool :=
  a.start < b.start || (a.start == b.start && a.stop ≤ b.stop)

/-- Put instances in order. Those of equal range keep the order in which they come. -/
def ofList (instances : List ModuleInstance) : AddressMap :=
  let sorted := instances.mergeSort precedes
  ⟨sorted, sorted.foldl (fun m i => max m i.span) 0⟩

/-- The instances that may reach up to an address, the nearest start first: those that start at or
below it, and no farther below than the longest span. -/
def candidates (m : AddressMap) (tag : UInt64) : List ModuleInstance :=
  let lowest := if m.maxSpan ≤ tag then tag - m.maxSpan else 0
  (m.instances.takeWhile (·.start ≤ tag)).reverse.takeWhile (lowest ≤ ·.start)

/-- The one instance to which an address belongs at a stream position. -/
def resolve? (m : AddressMap) (tag : UInt64) (stream : StreamKind) (position : Nat) :
    Option ModuleInstance :=
  match (m.candidates tag).filter (·.covers tag stream position) with
  | [i] => some i
  | _ => none

/-- The unit of an address and the address within the unit. An address of no instance belongs to the
unknown unit and stays as it is. -/
def locate (m : AddressMap) (tag : UInt64) (stream : StreamKind) (position : Nat) :
    UnitId × UInt64 :=
  match m.resolve? tag stream position with
  | some i => (i.unit, tag - i.start)
  | none => (.unknown, tag)

end AddressMap

/-- Look the instances up by address from now on. -/
def ModuleHistory.freeze (h : ModuleHistory) : AddressMap := .ofList h.toList

end FlowAtlas
