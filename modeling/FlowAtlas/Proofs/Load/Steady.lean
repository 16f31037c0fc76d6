import FlowAtlas.Proofs.Load.Account
import FlowAtlas.Proofs.Module.Lookup

/-!
# Logs that tell of loads at the very beginning only

Where every unit is loaded before the first record of any stream and none is ever unloaded, it does
not matter where in its stream a record stands.  `ModuleLog.Steady` says so of a log, and
`ModuleLog.steady_of_read` of the instances that are read from it.

A window that nobody closed ends at the last number of 64 bits.  A file of fewer than `2 ^ 64` bytes
has no record so far out, not even when it is written twice (`Record.Forms.twice_length_le`).
So `Routing.allWork_of_steady` can speak of the records of a file without their positions.
-/

set_option autoImplicit false

namespace FlowAtlas

open EStateM

/-! ## Windows that are open from the beginning -/

/-- The stay began before the first record of any stream and lasts. -/
def ModuleInstance.Steady (i : ModuleInstance) : Prop :=
  ∀ stream, i.windows.get stream = .openAt 0

theorem ModuleInstance.steady_loadedAt (unit : UnitId) (start stop : UInt64) :
    (ModuleInstance.loadedAt unit start stop ⟨0, 0, 0⟩).Steady := by
  intro stream
  cases stream with
  | block | edge | crossModuleEdge => rfl

/-- Every stay began before the first record of any stream and lasts. -/
def AddressMap.Steady (m : AddressMap) : Prop := ∀ i ∈ m.instances, i.Steady

/-- A position that a window which nobody closed still holds. -/
def StreamWindow.Within (position : Nat) : Prop := position < openEnd.toNat

theorem StreamWindow.within_zero : Within 0 := by rw [Within]; decide

section

open StreamWindow (Within)

variable {m : AddressMap} {i : ModuleInstance} {tag : UInt64} {stream : StreamKind}
  {position position' : Nat}

theorem ModuleInstance.Steady.covers_eq (h : i.Steady) (hp : Within position) :
    i.covers tag stream position = i.containsAddress tag := by
  have hwindow : (i.windows.get stream).contains position = true := by
    rw [h stream, StreamWindow.contains, Bool.and_eq_true, decide_eq_true_iff, decide_eq_true_iff]
    exact ⟨Nat.zero_le _, hp⟩
  rw [covers, hwindow, Bool.and_true]

/-- **Where every stay lasts, an address belongs to the same unit at every position.** -/
theorem AddressMap.Steady.locate_eq (h : m.Steady) (stream' : StreamKind)
    (hp : Within position) (hp' : Within position') :
    m.locate tag stream position = m.locate tag stream' position' := by
  have hcandidates : ∀ i ∈ m.candidates tag, i.Steady := by
    intro i hi
    have hi := (List.takeWhile_sublist _).subset hi
    exact h i ((List.takeWhile_sublist _).subset (List.mem_reverse.1 hi))
  have hfilter : (m.candidates tag).filter (·.covers tag stream position) =
      (m.candidates tag).filter (·.covers tag stream' position') :=
    List.filter_congr fun i hi => by
      rw [(hcandidates i hi).covers_eq hp, (hcandidates i hi).covers_eq hp']
  rw [locate, locate, resolve?, resolve?, hfilter]

end

/-! ## Logs -/

namespace ModuleLog

variable {line : Nat} {bs log : Bytes} {e : ModuleEvent} {s s' : State} {u : Unit}
  {units units' : UnitTable} {modules : AddressMap}

/-- The line tells of the event. -/
def Tells (line : Nat) (bs : Bytes) (e : ModuleEvent) : Prop :=
  ∃ text l, bs.text? = some text ∧ LogLine.ofText? (Text.trim text.toList) = some l ∧
    eventOfLine line l = .ok e

/-- Whatever the log tells of is a load before the first record of any stream. -/
def Steady (log : Bytes) : Prop :=
  ∀ bs ∈ log.lines, ∀ line e, Tells line bs e → e.isLoad = true ∧ e.counters = ⟨0, 0, 0⟩

theorem steady_apply (h : ∀ i ∈ s.history.newestFirst, i.Steady) (hload : e.isLoad = true)
    (hcounters : e.counters = ⟨0, 0, 0⟩) (hr : apply line e s = .ok u s') :
    ∀ i ∈ s'.history.newestFirst, i.Steady := by
  rw [apply, if_pos hload] at hr
  cases hr
  refine List.forall_mem_cons.2 ⟨?_, h⟩
  rw [hcounters]
  exact ModuleInstance.steady_loadedAt _ _ _

theorem steady_readLine (h : ∀ i ∈ s.history.newestFirst, i.Steady)
    (hline : ∀ e, Tells line bs e → e.isLoad = true ∧ e.counters = ⟨0, 0, 0⟩)
    (hr : readLine line bs s = .ok u s') : ∀ i ∈ s'.history.newestFirst, i.Steady := by
  rw [readLine] at hr
  cases htext : bs.text? with
  | none =>
    rw [htext] at hr
    cases hr
  | some text =>
    rw [htext] at hr
    dsimp only at hr
    cases hl : LogLine.ofText? (Text.trim text.toList) with
    | none =>
      rw [hl] at hr
      cases hr
      exact h
    | some l =>
      rw [hl] at hr
      dsimp only at hr
      cases he : eventOfLine line l with
      | error cause =>
        rw [he] at hr
        cases hr
      | ok e =>
        rw [he] at hr
        obtain ⟨hload, hcounters⟩ := hline e ⟨text, l, htext, hl, he⟩
        exact steady_apply h hload hcounters hr

theorem steady_readLines {lines : List Bytes} (h : ∀ i ∈ s.history.newestFirst, i.Steady)
    (hlines : ∀ bs ∈ lines, ∀ line e, Tells line bs e →
      e.isLoad = true ∧ e.counters = ⟨0, 0, 0⟩)
    (hr : readLines line lines s = .ok u s') : ∀ i ∈ s'.history.newestFirst, i.Steady := by
  induction lines generalizing line s with
  | nil =>
    cases hr
    exact h
  | cons bs lines ih =>
    obtain ⟨hbs, hlines⟩ := List.forall_mem_cons.1 hlines
    obtain ⟨_, s₁, hline, hr⟩ := bind_eq_ok_iff.1 hr
    exact ih (steady_readLine h (hbs line) hline) hlines hr

/-- **The stays that a steady log tells of are steady.** -/
theorem steady_of_read (h : Steady log) (hr : read units log = (.ok modules, units')) :
    modules.Steady := by
  rw [read] at hr
  cases hlines : readLines 1 log.lines { units } with
  | error cause s =>
    rw [hlines] at hr
    cases hr
  | ok u s =>
    rw [hlines] at hr
    cases hr
    have hhistory := steady_readLines (by simp) h hlines
    intro i hi
    have hi := (AddressMap.perm_instances _).mem_iff.1 hi
    exact hhistory i (List.mem_reverse.1 hi)

end ModuleLog

namespace TraceFile

variable {f : TraceFile} {units units' : UnitTable} {modules : AddressMap}

/-- The file, read as a module log, is steady. -/
def Steady (f : TraceFile) : Prop := ∀ log, f.contents = .ok log → ModuleLog.Steady log

theorem steady_of_readLog (h : f.Steady) (hr : f.readLog units = .ok (modules, units')) :
    modules.Steady := by
  obtain ⟨log, hlog, hread⟩ := readLog_eq_ok_iff.1 hr
  exact ModuleLog.steady_of_read (h log hlog) hread

/-- The length of the file is a number of 64 bits. -/
def Sized (f : TraceFile) : Prop := ∀ bs, f.contents = .ok bs → bs.length < 2 ^ 64

end TraceFile

/-- The length of each record stream is a number of 64 bits. -/
structure TraceFiles.Sized (t : TraceFiles) : Prop where
  blocks : t.blockStream.Sized
  edges : t.edgeStream.Sized
  crosses : t.crossModuleStream.Sized

namespace TraceFiles

theorem steady_callingOut (edges : List EdgeRecord) : (callingOut edges).moduleLog.Steady := by
  obtain ⟨hlines, htext, l, hparts, hevent⟩ := event_callingOut
  rintro log hlog bs hbs line e ⟨text, l', htext', hparts', hevent'⟩
  cases hlog
  rw [hlines, List.mem_singleton] at hbs
  subst hbs
  cases htext.symm.trans htext'
  cases hparts.symm.trans hparts'
  cases (hevent line).symm.trans hevent'
  exact ⟨rfl, rfl⟩

theorem sized_callingOut : ∀ edges ∈ [mixedEdges, [jumpBack]], (callingOut edges).Sized := by
  intro edges hedges
  have hlengths : (Record.toBytes twoBlocks).length < 2 ^ 64 ∧
      (Record.toBytes edges).length < 2 ^ 64 ∧ (Record.toBytes [callOut]).length < 2 ^ 64 := by
    rcases List.mem_pair.1 hedges with rfl | rfl
    · decide
    · decide
  refine ⟨fun bs hbs => ?_, fun bs hbs => ?_, fun bs hbs => ?_⟩
  · cases hbs
    exact hlengths.1
  · cases hbs
    exact hlengths.2.1
  · cases hbs
    exact hlengths.2.2

end TraceFiles

/-! ## Records without positions -/

namespace Record

open StreamWindow (Within)

variable {α β : Type} [Record α] {bs : Bytes} {values : List α}

/-- Of records of two bytes at least, twice as many as a file has still keep their positions within
every window that is open. -/
theorem Forms.twice_length_le (h : Forms bs values) (hsize : 2 ≤ size α)
    (hbs : bs.length < 2 ^ 64) : values.length + values.length ≤ StreamWindow.openEnd.toNat := by
  have hlength := h.length_eq
  have hle : values.length * 2 ≤ values.length * size α := Nat.mul_le_mul_left _ hsize
  have hend : StreamWindow.openEnd.toNat = 2 ^ 64 - 1 := by decide
  omega

omit [Record α] in
/-- A function that does not look at positions within the windows. -/
theorem map_numbered {f : Nat × α → β} {position : Nat}
    (hf : ∀ p v, Within p → f (p, v) = f (0, v))
    (hle : position + values.length ≤ StreamWindow.openEnd.toNat) :
    (numbered position values).map f = values.map fun v => f (0, v) := by
  induction values generalizing position with
  | nil => rfl
  | cons v values ih =>
    rw [List.length_cons] at hle
    rw [numbered, List.map_cons, List.map_cons, hf position v, ih (by omega)]
    rw [Within]
    omega

end Record

namespace Routing

open StreamWindow (Within)

variable {r : Routing} {cs : Clusters} {stream : StreamKind} {position : Nat} {e : Endpoint}

section

variable (h : r.modules.Steady) (hp : Within position)

include h hp

theorem home_of_steady (v : NodeRecord) : r.home (position, v) = r.home (0, v) := by
  rw [home, home, h.locate_eq .block hp StreamWindow.within_zero]

theorem nodeOf_of_steady (v : NodeRecord) : r.nodeOf (position, v) = r.nodeOf (0, v) := by
  rw [nodeOf, nodeOf, h.locate_eq .block hp StreamWindow.within_zero]

theorem find?_of_steady : r.find? cs e stream position = r.find? cs e stream 0 := by
  rw [find?, find?, h.locate_eq stream hp StreamWindow.within_zero]

theorem fate_of_steady (record : EdgeRecord) :
    r.fate cs record stream position = r.fate cs record stream 0 := by
  rw [fate, fate, find?_of_steady h hp, find?_of_steady h hp]

theorem edgeWork_of_steady (record : EdgeRecord) :
    r.edgeWork cs (position, record) = r.edgeWork cs (0, record) := by
  rw [edgeWork, edgeWork, work, work, fate_of_steady h hp]

theorem crossWork_of_steady (record : CrossRecord) :
    r.crossWork cs (position, record) = r.crossWork cs (0, record) := by
  rw [crossWork, crossWork, work, work, fate_of_steady h hp]

end

/-- **The work of all records is the work of what they hold, wherever they stand.** -/
theorem allWork_of_steady (h : r.modules.Steady) {edges : List EdgeRecord}
    {crosses : List CrossRecord} (hedges : edges.length ≤ StreamWindow.openEnd.toNat)
    (hcrosses : crosses.length ≤ StreamWindow.openEnd.toNat) :
    r.allWork cs (Record.numbered 0 edges) (Record.numbered 0 crosses) =
      .all (edges.map fun e => r.edgeWork cs (0, e)) ++
        .all (crosses.map fun e => r.crossWork cs (0, e)) := by
  rw [allWork, Record.map_numbered (fun p v hp => edgeWork_of_steady h hp v) (by omega),
    Record.map_numbered (fun p v hp => crossWork_of_steady h hp v) (by omega)]

end Routing
end FlowAtlas
