import FlowAtlas.Proofs.Module.Log
import FlowAtlas.Proofs.Module.Lookup

/-!
# Units have one number and one name

In a table of units the numbers and the names belong together (`UnitTable.WellFormed`): the number
of a name is that of the unit of this name, so that different numbers have different names
(`WellFormed.name_inj`).

`ModuleLog.wellFormed_read` is the main theorem.  Whatever a module log contains, reading it leaves
such a table, every address belongs to a unit that has a number in it, and the names can stand in
lines of a text.
-/

set_option autoImplicit false

namespace FlowAtlas

namespace UnitTable

variable {t : UnitTable} {u v : SoftwareUnit} {id i j : UnitId} {name : String}

/-- The number was given out. -/
def Issued (t : UnitTable) (id : UnitId) : Prop := ∃ u, t.get? id = some u

/-- Numbers and names belong together, and no name goes over the end of a line. -/
structure WellFormed (t : UnitTable) : Prop where
  lookup?_eq_some_iff : ∀ name id,
    t.lookup? name = some id ↔ ∃ u, t.get? id = some u ∧ u.name = name
  newline_not_mem : ∀ id u, t.get? id = some u → '\n' ∉ u.name.toList

/-- A new unit takes the next number. -/
theorem get?_push (ids : Std.HashMap String UnitId) :
    get? ⟨t.units.push u, ids⟩ id = if id = ⟨t.units.size⟩ then some u else t.get? id := by
  rw [get?, Array.getElem?_push]
  split
  · rename_i hid
    rw [if_pos (congrArg UnitId.mk hid)]
  · rename_i hid
    have hne : id ≠ ⟨t.units.size⟩ := fun h => hid (congrArg UnitId.index h)
    rw [if_neg hne]
    rfl

theorem get?_next (t : UnitTable) : t.get? ⟨t.units.size⟩ = none :=
  Array.getElem?_eq_none (Nat.le_refl _)

/-- Numbers that were given out stay what they are. -/
theorem get?_intern (h : t.get? id = some v) (u : SoftwareUnit) :
    (t.intern u).2.get? id = some v := by
  rw [intern]
  cases t.lookup? u.name with
  | some found => exact h
  | none =>
    dsimp only
    rw [get?_push, if_neg, h]
    rintro rfl
    rw [get?_next] at h
    cases h

theorem Issued.intern (h : t.Issued id) (u : SoftwareUnit) : (t.intern u).2.Issued id := by
  obtain ⟨v, hv⟩ := h
  exact ⟨v, get?_intern hv u⟩

namespace WellFormed

/-- Different numbers have different names. -/
theorem name_inj (h : t.WellFormed) (hi : t.Issued i) (hj : t.Issued j)
    (hname : t.name i = t.name j) : i = j := by
  obtain ⟨u, hu⟩ := hi
  obtain ⟨v, hv⟩ := hj
  rw [UnitTable.name, UnitTable.name, hu, hv] at hname
  have hlookup := (h.lookup?_eq_some_iff _ _).2 ⟨u, hu, rfl⟩
  have hlookup' := (h.lookup?_eq_some_iff _ _).2 ⟨v, hv, hname.symm⟩
  exact Option.some.inj (hlookup.symm.trans hlookup')

theorem newline_not_mem_name (h : t.WellFormed) (hi : t.Issued i) : '\n' ∉ (t.name i).toList := by
  obtain ⟨u, hu⟩ := hi
  rw [UnitTable.name, hu]
  exact h.newline_not_mem i u hu

theorem issued_intern (h : t.WellFormed) (u : SoftwareUnit) :
    (t.intern u).2.Issued (t.intern u).1 := by
  rw [UnitTable.intern]
  cases hlookup : t.lookup? u.name with
  | some id =>
    obtain ⟨v, hv, -⟩ := (h.lookup?_eq_some_iff _ _).1 hlookup
    exact ⟨v, hv⟩
  | none => exact ⟨u, by rw [get?_push, if_pos rfl]⟩

/-- A unit is numbered unless its name has a number. -/
theorem intern (h : t.WellFormed) (hu : '\n' ∉ u.name.toList) : (t.intern u).2.WellFormed := by
  cases hlookup : t.lookup? u.name with
  | some id =>
    rw [UnitTable.intern, hlookup]
    exact h
  | none =>
    rw [UnitTable.intern, hlookup]
    have hnew : ∀ id v, t.get? id = some v → v.name ≠ u.name := by
      intro id v hv hname
      rw [(h.lookup?_eq_some_iff _ id).2 ⟨v, hv, hname⟩] at hlookup
      cases hlookup
    refine ⟨fun name id => ?_, fun id v hv => ?_⟩
    · dsimp only
      rw [UnitTable.lookup?, Std.HashMap.getElem?_insert, get?_push]
      by_cases hname : u.name = name
      · rw [if_pos (beq_iff_eq.2 hname)]
        split
        · rename_i hid
          exact iff_of_true (congrArg some hid.symm) ⟨u, rfl, hname⟩
        · rename_i hid
          refine iff_of_false (fun heq => hid (Option.some.inj heq).symm) ?_
          rintro ⟨v, hv, hvname⟩
          exact hnew id v hv (hvname.trans hname.symm)
      · rw [if_neg fun heq => hname (beq_iff_eq.1 heq)]
        refine (h.lookup?_eq_some_iff name id).trans (exists_congr fun v => ?_)
        split
        · rename_i hid
          rw [hid, get?_next]
          constructor
          · rintro ⟨hv, -⟩
            cases hv
          · rintro ⟨hv, hvname⟩
            exact absurd (Option.some.inj hv ▸ hvname) hname
        · exact Iff.rfl
    · dsimp only at hv
      rw [get?_push] at hv
      split at hv
      · cases hv
        exact hu
      · exact h.newline_not_mem id v hv

end WellFormed

theorem wellFormed_empty : WellFormed empty where
  lookup?_eq_some_iff name id := by
    rw [lookup?, empty, Std.HashMap.getElem?_empty]
    exact iff_of_false nofun nofun
  newline_not_mem id u hu := by cases hu

theorem wellFormed_initial : WellFormed initial := wellFormed_empty.intern (by decide)

/-- The unknown unit has a number from the beginning. -/
theorem issued_initial : Issued initial .unknown := by
  have hissued := wellFormed_empty.issued_intern .unknown
  have hid : (empty.intern .unknown).1 = .unknown := by
    rw [intern, lookup?, empty, Std.HashMap.getElem?_empty]
    rfl
  rwa [hid] at hissued

end UnitTable

/-! ## What a log leaves -/

namespace ModuleHistory

variable {unit : UnitId} {start : UInt64} {counters : StreamCounters}

/-- What the end of a stay does not change is the same for all stays afterwards. -/
theorem forall_of_closeFirst? {p : ModuleInstance → Prop} (hp : ∀ i, p i → p (i.unload counters))
    {l l' : List ModuleInstance} (h : closeFirst? unit start counters l = some l')
    (hl : ∀ i ∈ l, p i) : ∀ i ∈ l', p i := by
  induction l generalizing l' with
  | nil => cases h
  | cons i l ih =>
    obtain ⟨hi, hl⟩ := List.forall_mem_cons.1 hl
    rw [closeFirst?] at h
    split at h
    · cases h
      exact List.forall_mem_cons.2 ⟨hp i hi, hl⟩
    · obtain ⟨l₁, hclose, rfl⟩ := Option.map_eq_some_iff.1 h
      exact List.forall_mem_cons.2 ⟨hi, ih hclose hl⟩

/-- The end of a stay changes no unit. -/
theorem forall_unit_of_closeFirst? {p : UnitId → Prop} {l l' : List ModuleInstance}
    (h : closeFirst? unit start counters l = some l') (hl : ∀ i ∈ l, p i.unit) :
    ∀ i ∈ l', p i.unit := forall_of_closeFirst? (p := fun i => p i.unit) (fun _ hi => hi) h hl

end ModuleHistory

namespace ModuleLog

variable {s s' : State} {line : Nat} {e : ModuleEvent} {l : LogLine} {bs log : Bytes} {u : Unit}
  {units units' : UnitTable} {modules : AddressMap} {lines : List Bytes}

/-- The units are numbered well, and each stay is that of a unit with a number. -/
structure State.WellFormed (s : State) : Prop where
  units : s.units.WellFormed
  issued_unknown : s.units.Issued .unknown
  issued : ∀ i ∈ s.history.newestFirst, s.units.Issued i.unit

theorem State.WellFormed.apply (h : s.WellFormed) (he : '\n' ∉ e.name.toList)
    (hr : apply line e s = .ok u s') : s'.WellFormed := by
  rw [ModuleLog.apply] at hr
  split at hr
  · cases hr
    have hname : '\n' ∉ (SoftwareUnit.parse e.name).name.toList := by
      rwa [SoftwareUnit.name_parse]
    refine ⟨h.units.intern hname, h.issued_unknown.intern _, List.forall_mem_cons.2 ⟨?_, ?_⟩⟩
    · exact h.units.issued_intern _
    · exact fun i hi => (h.issued i hi).intern _
  · split at hr
    · rename_i history hclose
      cases hr
      obtain ⟨unit, -, hunload⟩ := Option.bind_eq_some_iff.1 hclose
      obtain ⟨l, hl, rfl⟩ := Option.map_eq_some_iff.1 hunload
      exact ⟨h.units, h.issued_unknown, ModuleHistory.forall_unit_of_closeFirst? hl h.issued⟩
    · cases hr

theorem mem_of_mem_trim {c : Char} {cs : List Char} (h : c ∈ Text.trim cs) : c ∈ cs := by
  have hdrop := List.dropWhile_subset Text.isBlank (List.mem_reverse.1 h)
  exact List.dropWhile_subset Text.isBlank (List.mem_reverse.1 hdrop)

/-- An event has the name that stands in its line, without the blanks at its ends. -/
theorem name_of_eventOfLine (h : eventOfLine line l = .ok e) :
    e.name = String.ofList (Text.trim l.name) := by
  obtain ⟨block, -, h⟩ := Except.bind_eq_ok_iff.1 h
  obtain ⟨edge, -, h⟩ := Except.bind_eq_ok_iff.1 h
  obtain ⟨cross, -, h⟩ := Except.bind_eq_ok_iff.1 h
  obtain ⟨start, -, h⟩ := Except.bind_eq_ok_iff.1 h
  obtain ⟨stop, -, h⟩ := Except.bind_eq_ok_iff.1 h
  dsimp only at h
  split at h
  · cases h
    rfl
  · cases h

/-- A line has no line feed in it, and so the names that it tells of have none. -/
theorem State.WellFormed.readLine (h : s.WellFormed) (hbs : 0x0a ∉ bs)
    (hr : readLine line bs s = .ok u s') : s'.WellFormed := by
  rw [ModuleLog.readLine] at hr
  cases htext : bs.text? with
  | none =>
    rw [htext] at hr
    cases hr
  | some text =>
    rw [htext] at hr
    dsimp only at hr
    cases hl : LogLine.ofText? (Text.trim text.toList) with
    | none =>
      rw [hl] at hr
      cases hr
      exact h
    | some l =>
      rw [hl] at hr
      dsimp only at hr
      cases he : eventOfLine line l with
      | error cause =>
        rw [he] at hr
        cases hr
      | ok e =>
        rw [he] at hr
        refine h.apply (fun hmem => hbs ?_) hr
        rw [name_of_eventOfLine he, String.toList_ofList] at hmem
        have hname := LogLine.mem_text_of_mem_name (mem_of_mem_trim hmem)
        rw [← (LogLine.of_ofText?_eq_some hl).2] at hname
        rw [← Bytes.ofText_of_text? htext]
        exact (Bytes.mem_ofText_iff (c := '\n') (by decide)).2 (mem_of_mem_trim hname)

theorem State.WellFormed.readLines (h : s.WellFormed) (hlines : ∀ bs ∈ lines, 0x0a ∉ bs)
    (hr : readLines line lines s = .ok u s') : s'.WellFormed := by
  induction lines generalizing line s with
  | nil =>
    cases hr
    exact h
  | cons bs lines ih =>
    obtain ⟨hbs, hlines⟩ := List.forall_mem_cons.1 hlines
    rw [ModuleLog.readLines] at hr
    obtain ⟨_, s₁, hline, hrest⟩ := EStateM.bind_eq_ok_iff.1 hr
    exact ih (h.readLine hbs hline) hlines hrest

end ModuleLog

/-- An address belongs to the unit of a stay, or to the unknown unit. -/
theorem AddressMap.forall_locate {p : UnitId → Prop} {l : List ModuleInstance}
    (hl : ∀ i ∈ l, p i.unit) (hunknown : p .unknown) (tag : UInt64) (stream : StreamKind)
    (position : Nat) : p ((ofList l).locate tag stream position).1 := by
  rw [locate]
  cases h : (ofList l).resolve? tag stream position with
  | none => exact hunknown
  | some i =>
    have hmem : i ∈ l.filter (·.covers tag stream position) := by
      rw [resolve?_eq_some_iff.1 h]
      exact List.mem_singleton_self i
    exact hl i (List.mem_filter.1 hmem).1

namespace ModuleLog

variable {log : Bytes} {units units' : UnitTable} {modules : AddressMap}

/-- **Every address belongs to a unit with a number**, and with a name that no other unit has. -/
theorem wellFormed_read (h : units.WellFormed) (hunknown : units.Issued .unknown)
    (hread : read units log = (.ok modules, units')) :
    units'.WellFormed ∧ ∀ tag stream position, units'.Issued
      (modules.locate tag stream position).1 := by
  rw [read] at hread
  cases hr : readLines 1 log.lines { units } with
  | error cause s =>
    rw [hr] at hread
    cases hread
  | ok u s =>
    rw [hr] at hread
    cases hread
    have hs : s.WellFormed := State.WellFormed.readLines ⟨h, hunknown, fun _ hi => by cases hi⟩
      (fun bs hbs => Bytes.newline_not_mem_of_mem_lines hbs) hr
    refine ⟨hs.units, AddressMap.forall_locate (fun i hi => ?_) hs.issued_unknown⟩
    exact hs.issued i (List.mem_reverse.1 hi)

end ModuleLog
end FlowAtlas
