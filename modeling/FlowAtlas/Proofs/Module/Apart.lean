import FlowAtlas.Graph.Node
import FlowAtlas.Proofs.Module.Units

/-!
# Code of modules and code outside them

A block is known by its unit and its address within the unit, and a block that lies in no module by
the unknown unit and its address as it is.  Both kinds of address are numbers from zero on, so only
the units keep them apart (`AddressMap.Apart`).

Units are numbered by name, and the name of the unknown unit is taken from the beginning.  It is a
name that a log may use as well, and then a module has the number of the unknown unit.  The main
theorem `ModuleLog.apart_iff` is that this is the only way in which code of a module and code outside
all modules come to share a key.  It rests on what reading a line does (`readLine_eq_ok_cases`): in
the end every stay goes back to the line that tells of it (`State.Told`).
-/

set_option autoImplicit false

namespace FlowAtlas

/-! ## Keys -/

namespace AddressMap

variable {m : AddressMap} {tag : UInt64} {position : Nat} {version : UInt8} {i : ModuleInstance}

/-- The key of the block at an address, at a position of the block stream. -/
def blockKey (m : AddressMap) (tag : UInt64) (position : Nat) (version : UInt8) : NodeKey :=
  .block (m.locate tag .block position).1 (m.locate tag .block position).2 version

/-- No block of a module has the key of a block that lies in no module. -/
def Apart (m : AddressMap) : Prop :=
  ∀ tag tag' position position' i, m.resolve? tag .block position = some i →
    m.resolve? tag' .block position' = none →
      ∀ version version', m.blockKey tag position version ≠ m.blockKey tag' position' version'

theorem blockKey_of_some (h : m.resolve? tag .block position = some i) :
    m.blockKey tag position version = .block i.unit (tag - i.start) version := by
  rw [blockKey, locate, h]

theorem blockKey_of_none (h : m.resolve? tag .block position = none) :
    m.blockKey tag position version = .block .unknown tag version := by
  rw [blockKey, locate, h]

theorem mem_of_resolve? {l : List ModuleInstance} {stream : StreamKind}
    (h : (ofList l).resolve? tag stream position = some i) : i ∈ l := by
  have hmem : i ∈ l.filter (·.covers tag stream position) := by
    rw [resolve?_eq_some_iff.1 h]
    exact List.mem_singleton_self i
  exact (List.mem_filter.1 hmem).1

/-- At the last position of all, every window is over. -/
theorem resolve?_last (l : List ModuleInstance) (tag : UInt64) :
    (ofList l).resolve? tag .block StreamWindow.openEnd.toNat = none := by
  cases h : (ofList l).resolve? tag .block StreamWindow.openEnd.toNat with
  | none => rfl
  | some i =>
    obtain ⟨-, hcovers⟩ := List.mem_filter.1
      (resolve?_eq_some_iff.1 h ▸ List.mem_singleton_self i)
    obtain ⟨-, -, hlt⟩ := ModuleInstance.covers_iff.1 hcovers
    have hle := UInt64.toNat_lt (i.windows.get .block).unload
    have hend : StreamWindow.openEnd.toNat = 2 ^ 64 - 1 := by decide
    omega

/-- Blocks are apart when no module has the number of the unknown unit. -/
theorem apart_iff_unit_ne (l : List ModuleInstance) : (ofList l).Apart ↔
    ∀ tag position i, (ofList l).resolve? tag .block position = some i → i.unit ≠ .unknown := by
  constructor
  · intro h tag position i hi hunit
    have hnone := resolve?_last l (tag - i.start)
    refine h tag _ position _ i hi hnone 0 0 ?_
    rw [blockKey_of_some hi, blockKey_of_none hnone, hunit]
  · intro h tag tag' position position' i hi hnone version version' heq
    rw [blockKey_of_some hi, blockKey_of_none hnone] at heq
    exact h tag position i hi (NodeKey.block.inj heq).1

end AddressMap

/-- A unit that is numbered is found by its number. -/
theorem UnitTable.exists_get?_intern {t : UnitTable} {u : SoftwareUnit}
    (h : (t.intern u).2.WellFormed) :
    ∃ v, (t.intern u).2.get? (t.intern u).1 = some v ∧ v.name = u.name :=
  (h.lookup?_eq_some_iff _ _).1 (t.lookup?_intern u)

/-! ## What a log tells -/

namespace ModuleLog

variable {s s' : State} {line : Nat} {e : ModuleEvent} {bs log : Bytes} {u : Unit}
  {units : UnitTable} {modules : AddressMap} {lines told : List Bytes}

/-- The line tells of the event. -/
def LineTells (bs : Bytes) (e : ModuleEvent) : Prop :=
  ∃ text l line, bs.text? = some text ∧ LogLine.ofText? (Text.trim text.toList) = some l ∧
    eventOfLine line l = .ok e

/-- A line that is read is passed over, or tells of an event that is then followed. -/
theorem readLine_eq_ok_cases (hr : readLine line bs s = .ok u s') :
    s' = s ∨ ∃ e, LineTells bs e ∧ apply line e s = .ok u s' := by
  rw [readLine] at hr
  cases htext : bs.text? with
  | none =>
    rw [htext] at hr
    cases hr
  | some text =>
    rw [htext] at hr
    dsimp only at hr
    cases hl : LogLine.ofText? (Text.trim text.toList) with
    | none =>
      rw [hl] at hr
      cases hr
      exact .inl rfl
    | some l =>
      rw [hl] at hr
      dsimp only at hr
      cases he : eventOfLine line l with
      | error cause =>
        rw [he] at hr
        cases hr
      | ok e =>
        rw [he] at hr
        exact .inr ⟨e, ⟨text, l, line, htext, hl, he⟩, hr⟩

/-- A line tells of the load with which the stay began, and its name is that of the unit. -/
def IsTold (units : UnitTable) (lines : List Bytes) (i : ModuleInstance) : Prop :=
  ∃ bs ∈ lines, ∃ e, LineTells bs e ∧ e.isLoad = true ∧ e.start = i.start ∧ e.stop = i.stop ∧
    ∃ u, units.get? i.unit = some u ∧ u.name = e.name

/-- Each stay is told of, and the unknown unit has its number and its name. -/
structure State.Told (lines : List Bytes) (s : State) : Prop where
  unknown : s.units.get? .unknown = some .unknown
  isTold : ∀ i ∈ s.history.newestFirst, IsTold s.units lines i

theorem State.Told.apply (h : s.Told told) (hs' : s'.units.WellFormed) (he : LineTells bs e)
    (hbs : bs ∈ told) (hr : apply line e s = .ok u s') : s'.Told told := by
  rw [ModuleLog.apply] at hr
  split at hr
  · rename_i hload
    cases hr
    obtain ⟨v, hv, hname⟩ := UnitTable.exists_get?_intern hs'
    rw [SoftwareUnit.name_parse] at hname
    refine ⟨UnitTable.get?_intern h.unknown _, List.forall_mem_cons.2 ⟨?_, fun i hi => ?_⟩⟩
    · exact ⟨bs, hbs, e, he, hload, rfl, rfl, v, hv, hname⟩
    · obtain ⟨bs', hbs', e', he', hload', hstart, hstop, v', hv', hname'⟩ := h.isTold i hi
      exact ⟨bs', hbs', e', he', hload', hstart, hstop, v', UnitTable.get?_intern hv' _, hname'⟩
  · split at hr
    · rename_i history hclose
      cases hr
      obtain ⟨unit, -, hunload⟩ := Option.bind_eq_some_iff.1 hclose
      obtain ⟨l, hl, rfl⟩ := Option.map_eq_some_iff.1 hunload
      exact ⟨h.unknown, ModuleHistory.forall_of_closeFirst? (fun _ hi => hi) hl h.isTold⟩
    · cases hr

theorem State.Told.readLines (h : s.Told told) (hs : s.WellFormed)
    (hlines : ∀ bs ∈ lines, bs ∈ told ∧ 0x0a ∉ bs) (hr : readLines line lines s = .ok u s') :
    s'.Told told := by
  induction lines generalizing line s with
  | nil =>
    cases hr
    exact h
  | cons bs lines ih =>
    obtain ⟨⟨hbs, hfeed⟩, hlines⟩ := List.forall_mem_cons.1 hlines
    rw [ModuleLog.readLines] at hr
    obtain ⟨_, s₁, hline, hrest⟩ := EStateM.bind_eq_ok_iff.1 hr
    have hs₁ := hs.readLine hfeed hline
    refine ih ?_ hs₁ hlines hrest
    rcases readLine_eq_ok_cases hline with rfl | ⟨e, he, happly⟩
    · exact h
    · exact h.apply hs₁.units he hbs happly

/-- **Every stay goes back to a line of the log**, and the unknown unit keeps its number. -/
theorem told_read (hread : read .initial log = (.ok modules, units)) :
    ∃ l, modules = .ofList l ∧ units.WellFormed ∧ units.get? .unknown = some .unknown ∧
      ∀ i ∈ l, IsTold units log.lines i := by
  rw [read] at hread
  cases hr : readLines 1 log.lines { units := .initial } with
  | error cause s =>
    rw [hr] at hread
    cases hread
  | ok u s =>
    rw [hr] at hread
    cases hread
    have hinitial : State.WellFormed { units := .initial } :=
      ⟨UnitTable.wellFormed_initial, UnitTable.issued_initial, fun _ hi => by cases hi⟩
    have hunknown : UnitTable.initial.get? .unknown = some .unknown := by
      rw [UnitTable.initial, UnitTable.intern, UnitTable.lookup?, UnitTable.empty,
        Std.HashMap.getElem?_empty]
      rfl
    have hfeed : ∀ bs ∈ log.lines, 0x0a ∉ bs := fun bs hbs =>
      Bytes.newline_not_mem_of_mem_lines hbs
    have hs := hinitial.readLines hfeed hr
    have htold : s.Told log.lines := State.Told.readLines ⟨hunknown, fun _ hi => by cases hi⟩
      hinitial (fun bs hbs => ⟨hbs, hfeed bs hbs⟩) hr
    exact ⟨_, rfl, hs.units, htold.unknown, fun i hi => htold.isTold i (List.mem_reverse.1 hi)⟩

/-- **Code of a module and code outside all modules share no key just when no address belongs to a
module of the name of the unknown unit.**  The name of a module is that of the line with which its
stay began, so it is enough that no line loads a module of that name. -/
theorem apart_iff (hread : read .initial log = (.ok modules, units)) :
    (modules.Apart ↔ ∀ tag position i, modules.resolve? tag .block position = some i →
      units.name i.unit ≠ SoftwareUnit.unknownName) ∧
    (∀ tag position i, modules.resolve? tag .block position = some i →
      ∃ bs ∈ log.lines, ∃ e, LineTells bs e ∧ e.isLoad = true ∧ e.start = i.start ∧
        e.stop = i.stop ∧ units.name i.unit = e.name) ∧
    ((∀ bs ∈ log.lines, ∀ e, LineTells bs e → e.isLoad = true →
      e.name ≠ SoftwareUnit.unknownName) → modules.Apart) := by
  obtain ⟨l, rfl, hunits, hunknown, htold⟩ := told_read hread
  have htells : ∀ tag position i, (AddressMap.ofList l).resolve? tag .block position = some i →
      ∃ bs ∈ log.lines, ∃ e, LineTells bs e ∧ e.isLoad = true ∧ e.start = i.start ∧
        e.stop = i.stop ∧ units.name i.unit = e.name := by
    intro tag position i hi
    obtain ⟨bs, hbs, e, he, hload, hstart, hstop, v, hv, hname⟩ :=
      htold i (AddressMap.mem_of_resolve? hi)
    refine ⟨bs, hbs, e, he, hload, hstart, hstop, ?_⟩
    rw [UnitTable.name, hv]
    exact hname
  have hiff : (AddressMap.ofList l).Apart ↔ ∀ tag position i,
      (AddressMap.ofList l).resolve? tag .block position = some i →
        units.name i.unit ≠ SoftwareUnit.unknownName := by
    refine (AddressMap.apart_iff_unit_ne l).trans (forall₃_congr fun tag position i =>
      forall_congr' fun hi => not_congr ?_)
    have hname : units.name .unknown = SoftwareUnit.unknownName := by
      rw [UnitTable.name, hunknown]
      rfl
    obtain ⟨-, -, -, -, -, -, -, v, hv, -⟩ := htold i (AddressMap.mem_of_resolve? hi)
    constructor
    · rintro hunit
      rw [hunit, hname]
    · exact fun heq => hunits.name_inj ⟨v, hv⟩ ⟨_, hunknown⟩ (heq.trans hname.symm)
  refine ⟨hiff, htells, fun h => hiff.2 fun tag position i hi heq => ?_⟩
  obtain ⟨bs, hbs, e, he, hload, -, -, hname⟩ := htells tag position i hi
  exact h bs hbs e he hload (hname.symm.trans heq)

/-! ## Logs of one module -/

/-- The log of one module that is loaded and stays. -/
def oneLoad (name : String) : List LogEntry :=
  [.event ⟨⟨0, 0, 0⟩, true, name, 0x1000, 0x1fff⟩]

/-- The stay that it tells of. -/
def oneStay (name : String) : ModuleInstance :=
  .loadedAt (UnitTable.initial.intern (.parse name)).1 0x1000 0x1fff ⟨0, 0, 0⟩

theorem read_oneLoad {name : String} (h : ∀ x ∈ oneLoad name, x.Fits) :
    read .initial (LogEntry.log (oneLoad name)) =
      (.ok (.ofList [oneStay name]), (UnitTable.initial.intern (.parse name)).2) := by
  rw [read_log h, oneLoad, LogEntry.replay, ModuleHistory.follow?, if_pos rfl]
  rfl

theorem fits_oneLoad {name : String} (hname : name ≠ "") (hfeed : '\n' ∉ name.toList)
    (hfirst : ∀ c ∈ name.toList.head?, Text.isBlank c = false)
    (hlast : ∀ c ∈ name.toList.getLast?, Text.isBlank c = false) :
    ∀ x ∈ oneLoad name, x.Fits := by
  have hrange : (0x1000 : UInt64) ≤ 0x1fff := by decide
  exact List.forall_mem_singleton.2 ⟨hrange, hname, hfeed, hfirst, hlast⟩

theorem resolve?_oneStay (name : String) :
    (AddressMap.ofList [oneStay name]).resolve? 0x1010 .block 0 = some (oneStay name) ∧
      (AddressMap.ofList [oneStay name]).resolve? 0x10 .block 0 = none := by
  constructor
  · exact AddressMap.resolve?_eq_some_iff.2 rfl
  · cases h : (AddressMap.ofList [oneStay name]).resolve? 0x10 .block 0 with
    | none => rfl
    | some i =>
      have hnil : [] = [i] := AddressMap.resolve?_eq_some_iff.1 h
      cases hnil

/-- A module of an ordinary name has keys of its own. -/
theorem apart_unit : ∃ modules units,
    read .initial (LogEntry.log (oneLoad "unit")) = (.ok modules, units) ∧
      modules.resolve? 0x1010 .block 0 = some (oneStay "unit") ∧
      modules.resolve? 0x10 .block 0 = none ∧ modules.Apart := by
  have hfits : ∀ x ∈ oneLoad "unit", x.Fits := by
    refine fits_oneLoad (by decide) (by decide) ?_ ?_ <;> rintro c ⟨⟩ <;> decide
  have hread := read_oneLoad hfits
  obtain ⟨hin, hout⟩ := resolve?_oneStay "unit"
  obtain ⟨-, -, hunits, -⟩ := told_read hread
  obtain ⟨v, hv, hname⟩ := UnitTable.exists_get?_intern hunits
  refine ⟨_, _, hread, hin, hout, (apart_iff hread).1.2 fun tag position i hi => ?_⟩
  rw [List.mem_singleton.1 (AddressMap.mem_of_resolve? hi), UnitTable.name]
  dsimp only [oneStay, ModuleInstance.loadedAt]
  rw [hv]
  dsimp only
  rw [hname, SoftwareUnit.name_parse]
  decide

/-- A module whose name is that of the unknown unit shares keys with the code outside it. -/
theorem not_apart_unknownName : ∃ modules units i,
    read .initial (LogEntry.log (oneLoad "__unknown__")) = (.ok modules, units) ∧
      modules.resolve? 0x1010 .block 0 = some i ∧ modules.resolve? 0x10 .block 0 = none ∧
      modules.blockKey 0x1010 0 0 = modules.blockKey 0x10 0 0 := by
  have hfits : ∀ x ∈ oneLoad "__unknown__", x.Fits := by
    refine fits_oneLoad (by decide) (by decide) ?_ ?_ <;> rintro c ⟨⟩ <;> decide
  obtain ⟨hin, hout⟩ := resolve?_oneStay "__unknown__"
  refine ⟨_, _, _, read_oneLoad hfits, hin, hout, ?_⟩
  have hzero : (UnitTable.empty.intern .unknown).1 = .unknown := by
    rw [UnitTable.intern, UnitTable.lookup?, UnitTable.empty, Std.HashMap.getElem?_empty]
    rfl
  have hknown : UnitTable.initial.lookup? "__unknown__" = some .unknown :=
    hzero ▸ UnitTable.empty.lookup?_intern .unknown
  have hunit : (oneStay "__unknown__").unit = .unknown := by
    rw [oneStay, ModuleInstance.loadedAt, UnitTable.intern, SoftwareUnit.name_parse,
      hknown]
  rw [AddressMap.blockKey_of_some hin, AddressMap.blockKey_of_none hout, hunit]
  rfl

end ModuleLog
end FlowAtlas
