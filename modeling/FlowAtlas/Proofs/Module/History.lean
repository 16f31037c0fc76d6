import Mathlib.Data.List.Induction
import FlowAtlas.Proofs.Module.Lookup

/-!
# Loads and unloads pair like brackets

A `ModuleHistory` does not store which stays are open: an instance is open when one of its windows
ends at the mark for open windows.  So an unload at that mark would close nothing, and the theory
here is about calls that are `Plain`.

`Paired` is the pairing of loads and unloads as such, without windows: a load opens a stay, and an
unload closes the last open stay of its unit at its address, if there is one.  `Follows` says how a
history keeps to such a pairing: what it answers, what an unload changes, and what is there in the
end.  One call takes a history from one pairing to the next (`Tracks.load`, `Tracks.unload`,
`Tracks.stray`), and `exists_follows` is the whole run.
-/

set_option autoImplicit false

namespace FlowAtlas

/-! ## Closing an instance -/

namespace ModuleInstance

/-- An open stay of the unit at the address. -/
def OpenAt (i : ModuleInstance) (unit : UnitId) (start : UInt64) : Prop :=
  i.unit = unit ∧ i.start = start ∧ i.isLoaded

instance (i : ModuleInstance) (unit : UnitId) (start : UInt64) : Decidable (i.OpenAt unit start) :=
  inferInstanceAs (Decidable (_ ∧ _))

end ModuleInstance

namespace ModuleHistory

variable {h h' : ModuleHistory} {unit : UnitId} {start : UInt64} {k : StreamCounters}
  {l l' : List ModuleInstance}

theorem closeFirst?_eq_none_iff :
    closeFirst? unit start k l = none ↔ ∀ i ∈ l, ¬i.OpenAt unit start := by
  induction l with
  | nil => simp [closeFirst?]
  | cons i l ih =>
    rw [closeFirst?, List.forall_mem_cons]
    by_cases hi : i.unit = unit ∧ i.start = start ∧ i.isLoaded
    · rw [if_pos hi]
      exact iff_of_false (by simp) fun hnone => hnone.1 hi
    · rw [if_neg hi, Option.map_eq_none_iff, ih]
      exact (and_iff_right hi).symm

/-- Of a list with the newest first, the first open instance is closed. -/
theorem closeFirst?_eq_some_iff : closeFirst? unit start k l = some l' ↔
    ∃ newer i older, l = newer ++ i :: older ∧ (∀ j ∈ newer, ¬j.OpenAt unit start) ∧
      i.OpenAt unit start ∧ l' = newer ++ i.unload k :: older := by
  induction l generalizing l' with
  | nil => simp [closeFirst?]
  | cons i l ih =>
    rw [closeFirst?]
    by_cases hi : i.unit = unit ∧ i.start = start ∧ i.isLoaded
    · rw [if_pos hi, Option.some.injEq]
      constructor
      · rintro rfl
        exact ⟨[], i, l, rfl, by simp, hi, rfl⟩
      · rintro ⟨newer, j, older, hl, hnewer, -, rfl⟩
        cases newer with
        | nil => cases hl; rfl
        | cons j' newer =>
          cases hl
          exact absurd hi (hnewer i (by simp))
    · rw [if_neg hi, Option.map_eq_some_iff]
      constructor
      · rintro ⟨l₁, hl₁, rfl⟩
        obtain ⟨newer, j, older, rfl, hnewer, hj, rfl⟩ := ih.1 hl₁
        exact ⟨i :: newer, j, older, rfl, by simpa using ⟨hi, hnewer⟩, hj, rfl⟩
      · rintro ⟨newer, j, older, hl, hnewer, hj, rfl⟩
        cases newer with
        | nil =>
          cases hl
          exact absurd hj hi
        | cons j' newer =>
          cases hl
          exact ⟨_, ih.2 ⟨newer, j, older, rfl, fun x hx => hnewer x (by simp [hx]), hj, rfl⟩, rfl⟩

theorem unload?_eq_none_iff :
    h.unload? unit start k = none ↔ ∀ i ∈ h.toList, ¬i.OpenAt unit start := by
  rw [unload?, Option.map_eq_none_iff, closeFirst?_eq_none_iff]
  simp [toList]

/-- In the order of the loads, the last open instance is closed. -/
theorem unload?_eq_some_iff : h.unload? unit start k = some h' ↔
    ∃ before i after, h.toList = before ++ i :: after ∧ i.OpenAt unit start ∧
      (∀ j ∈ after, ¬j.OpenAt unit start) ∧ h'.toList = before ++ i.unload k :: after := by
  obtain ⟨l⟩ := h
  obtain ⟨l'⟩ := h'
  rw [unload?, Option.map_eq_some_iff]
  simp only [mk.injEq, exists_eq_right, closeFirst?_eq_some_iff, toList]
  constructor
  · rintro ⟨newer, i, older, rfl, hnewer, hi, rfl⟩
    exact ⟨older.reverse, i, newer.reverse, by simp, hi, by simpa using hnewer, by simp⟩
  · rintro ⟨before, i, after, hl, hi, hafter, hl'⟩
    rw [List.reverse_eq_iff] at hl hl'
    exact ⟨after.reverse, i, before.reverse, by simp [hl], by simpa using hafter, hi, by simp [hl']⟩

end ModuleHistory

/-! ## Runs -/

/-- A call on behalf of a line of a module log. -/
inductive ModuleCall
  | load (unit : UnitId) (start stop : UInt64) (counters : StreamCounters)
  | unload (unit : UnitId) (start : UInt64) (counters : StreamCounters)
  deriving DecidableEq, Repr

namespace ModuleCall

/-- What is loaded or unloaded, and where. -/
def place : ModuleCall → UnitId × UInt64
  | load unit start _ _ | unload unit start _ => (unit, start)

def isLoad : ModuleCall → Bool
  | load .. => true
  | unload .. => false

def counters : ModuleCall → StreamCounters
  | load _ _ _ k | unload _ _ k => k

/-- No counter is the mark for open windows. -/
def Plain (c : ModuleCall) : Prop :=
  StreamWindow.openEnd ∉ c.counters.toList

instance (c : ModuleCall) : Decidable c.Plain := inferInstanceAs (Decidable (¬_))

end ModuleCall

namespace ModuleHistory

/-- Whether the call is granted.  A load always is. -/
def grants (h : ModuleHistory) : ModuleCall → Bool
  | .load .. => true
  | .unload unit start k => (h.unload? unit start k).isSome

/-- The history after a call, granted or not. -/
def apply (h : ModuleHistory) : ModuleCall → ModuleHistory
  | .load unit start stop k => h.load unit start stop k
  | .unload unit start k => (h.unload? unit start k).getD h

/-- The history after calls from the beginning. -/
def run (calls : List ModuleCall) : ModuleHistory :=
  calls.foldl apply empty

/-- Calls with the answers that they get. -/
def answered (h : ModuleHistory) : List ModuleCall → List (ModuleCall × Bool)
  | [] => []
  | c :: calls => (c, h.grants c) :: (h.apply c).answered calls

/-- How many loads there were at places of `p`. -/
def loadCount (p : UnitId × UInt64 → Bool) (calls : List ModuleCall) : Nat :=
  calls.countP fun c => c.isLoad && p c.place

/-- How many unloads were granted at places of `p`. -/
def unloadCount (p : UnitId × UInt64 → Bool) (calls : List ModuleCall) : Nat :=
  (answered empty calls).countP fun (c, granted) => !c.isLoad && granted && p c.place

variable {calls : List ModuleCall} {c : ModuleCall} {p : UnitId × UInt64 → Bool}

theorem run_append_singleton : run (calls ++ [c]) = (run calls).apply c := by
  simp [run]

theorem answered_append_singleton (h : ModuleHistory) :
    h.answered (calls ++ [c]) = h.answered calls ++ [(c, (calls.foldl apply h).grants c)] := by
  induction calls generalizing h with
  | nil => rfl
  | cons d calls ih => simp [answered, ih]

theorem loadCount_append_singleton :
    loadCount p (calls ++ [c]) = loadCount p calls + if c.isLoad && p c.place then 1 else 0 := by
  rw [loadCount, List.countP_append, List.countP_singleton, loadCount]

theorem unloadCount_append_singleton : unloadCount p (calls ++ [c]) = unloadCount p calls +
    if !c.isLoad && (run calls).grants c && p c.place then 1 else 0 := by
  rw [unloadCount, answered_append_singleton, List.countP_append, List.countP_singleton]
  rfl

end ModuleHistory

/-! ## Stays -/

/-- A stay of a unit in memory, as the calls tell it: where and when it began, and when it ended if
it has. -/
structure Stay where
  unit : UnitId
  start : UInt64
  stop : UInt64
  loaded : StreamCounters
  unloaded : Option StreamCounters := none
  deriving DecidableEq, Repr

namespace Stay

variable {s : Stay} {unit : UnitId} {start : UInt64}

def place (s : Stay) : UnitId × UInt64 := (s.unit, s.start)

def isOpen (s : Stay) : Bool := s.unloaded.isNone

/-- The stay ends. -/
def close (s : Stay) (k : StreamCounters) : Stay := { s with unloaded := some k }

/-- Where the windows of the stay end. -/
def ends (s : Stay) : StreamCounters :=
  s.unloaded.getD ⟨StreamWindow.openEnd, StreamWindow.openEnd, StreamWindow.openEnd⟩

/-- The instance that stands for the stay. -/
def toInstance (s : Stay) : ModuleInstance where
  unit := s.unit
  start := s.start
  stop := s.stop
  windows := ⟨⟨s.loaded.block, s.ends.block⟩, ⟨s.loaded.edge, s.ends.edge⟩,
    ⟨s.loaded.crossModuleEdge, s.ends.crossModuleEdge⟩⟩

/-- The stay has not ended at the mark for open windows. -/
def Plain (s : Stay) : Prop :=
  ∀ k, s.unloaded = some k → StreamWindow.openEnd ∉ k.toList

theorem toInstance_close (s : Stay) (k : StreamCounters) :
    (s.close k).toInstance = s.toInstance.unload k := rfl

theorem isLoaded_toInstance (hs : s.Plain) : s.toInstance.isLoaded = s.isOpen := by
  rw [isOpen]
  cases hk : s.unloaded with
  | none => simp [toInstance, ends, hk, ModuleInstance.isLoaded, PerStream.toList]
  | some k =>
    have hplain := hs k hk
    simp only [PerStream.toList, List.mem_cons, List.not_mem_nil, or_false, not_or] at hplain
    simp [toInstance, ends, hk, ModuleInstance.isLoaded, PerStream.toList, Ne.symm hplain.1,
      Ne.symm hplain.2.1, Ne.symm hplain.2.2]

/-- The stay is open and of this place. -/
def OpenAt (s : Stay) (place : UnitId × UInt64) : Prop :=
  s.place = place ∧ s.isOpen

theorem openAt_toInstance (hs : s.Plain) :
    s.toInstance.OpenAt unit start ↔ s.OpenAt (unit, start) := by
  rw [ModuleInstance.OpenAt, isLoaded_toInstance hs, OpenAt, place, Prod.mk.injEq, and_assoc]
  rfl

end Stay

/-! ## The pairing -/

/-- Calls and the stays that they make, in the order of the loads. -/
inductive Paired : List ModuleCall → List Stay → Prop
  | nil : Paired [] []
  /-- A load opens a stay. -/
  | load {calls : List ModuleCall} {stays : List Stay} {unit : UnitId} {start stop : UInt64}
      {k : StreamCounters} : Paired calls stays →
      Paired (calls ++ [.load unit start stop k]) (stays ++ [⟨unit, start, stop, k, none⟩])
  /-- An unload closes the last open stay of its place. -/
  | unload {calls : List ModuleCall} {before after : List Stay} {s : Stay} {unit : UnitId}
      {start : UInt64} {k : StreamCounters} : Paired calls (before ++ s :: after) →
      s.OpenAt (unit, start) → (∀ s' ∈ after, ¬s'.OpenAt (unit, start)) →
      Paired (calls ++ [.unload unit start k]) (before ++ s.close k :: after)
  /-- An unload of a place without an open stay is stray. -/
  | stray {calls : List ModuleCall} {stays : List Stay} {unit : UnitId} {start : UInt64}
      {k : StreamCounters} : Paired calls stays → (∀ s ∈ stays, ¬s.OpenAt (unit, start)) →
      Paired (calls ++ [.unload unit start k]) stays

namespace ModuleHistory

variable {calls : List ModuleCall} {stays : List Stay} {unit : UnitId} {start stop : UInt64}
  {k : StreamCounters} {p : UnitId × UInt64 → Bool}

/-- What is known of a history while its calls are followed. -/
structure Tracks (calls : List ModuleCall) (stays : List Stay) : Prop where
  paired : Paired calls stays
  plain : ∀ s ∈ stays, s.Plain
  /-- The instances are the stays, in the order of the loads. -/
  toList_eq : (run calls).toList = stays.map Stay.toInstance
  /-- Of the loads at any places, those are still open that were not unloaded. -/
  balance : ∀ p, stays.countP (fun s => s.isOpen && p s.place) + unloadCount p calls =
    loadCount p calls

namespace Tracks

theorem unload?_eq_none_iff (h : Tracks calls stays) :
    (run calls).unload? unit start k = none ↔ ∀ s ∈ stays, ¬s.OpenAt (unit, start) := by
  rw [ModuleHistory.unload?_eq_none_iff, h.toList_eq, List.forall_mem_map]
  exact forall₂_congr fun s hs => not_congr (Stay.openAt_toInstance (h.plain s hs))

/-- An unload that is granted closes the last open stay of its place. -/
theorem exists_of_unload?_eq_some (h : Tracks calls stays) {h' : ModuleHistory}
    (hu : (run calls).unload? unit start k = some h') :
    ∃ before s after, stays = before ++ s :: after ∧ s.OpenAt (unit, start) ∧
      (∀ s' ∈ after, ¬s'.OpenAt (unit, start)) ∧
      h'.toList = (before ++ s.close k :: after).map Stay.toInstance := by
  obtain ⟨before, i, after, hl, hi, hafter, hl'⟩ := unload?_eq_some_iff.1 hu
  rw [h.toList_eq] at hl
  obtain ⟨sbefore, rest, rfl, rfl, hrest⟩ := List.map_eq_append_iff.1 hl
  obtain ⟨s, safter, rfl, rfl, rfl⟩ := List.map_eq_cons_iff.1 hrest
  have hplain := h.plain
  refine ⟨sbefore, s, safter, rfl, ?_, fun s' hs' hopen => ?_, ?_⟩
  · exact (Stay.openAt_toInstance (hplain s (by simp))).1 hi
  · exact hafter _ (List.mem_map_of_mem hs')
      ((Stay.openAt_toInstance (hplain s' (by simp [hs']))).2 hopen)
  · rw [hl', ← Stay.toInstance_close, List.map_append, List.map_cons]

theorem nil : Tracks [] [] where
  paired := .nil
  plain := by simp
  toList_eq := rfl
  balance p := rfl

theorem load (h : Tracks calls stays) :
    Tracks (calls ++ [.load unit start stop k]) (stays ++ [⟨unit, start, stop, k, none⟩]) where
  paired := .load h.paired
  plain := by
    intro s hs
    rcases List.mem_append.1 hs with hs | hs
    · exact h.plain s hs
    · rw [List.mem_singleton.1 hs]
      exact fun k hk => by cases hk
  toList_eq := by
    rw [run_append_singleton, List.map_append, ← h.toList_eq]
    show ((run calls).load unit start stop k).toList = _
    rw [ModuleHistory.load, toList, List.reverse_cons]
    rfl
  balance p := by
    have hbalance := h.balance p
    rw [unloadCount_append_singleton, loadCount_append_singleton, List.countP_append,
      List.countP_singleton]
    simp only [ModuleCall.isLoad, ModuleCall.place, Stay.isOpen, Stay.place, Option.isNone_none,
      Bool.true_and, Bool.not_true, Bool.false_and, Bool.false_eq_true, if_false] at hbalance ⊢
    omega

theorem stray (h : Tracks calls stays) (hu : (run calls).unload? unit start k = none) :
    Tracks (calls ++ [.unload unit start k]) stays where
  paired := .stray h.paired (h.unload?_eq_none_iff.1 hu)
  plain := h.plain
  toList_eq := by
    rw [run_append_singleton, apply, hu]
    exact h.toList_eq
  balance p := by
    have hbalance := h.balance p
    rw [unloadCount_append_singleton, loadCount_append_singleton, grants, hu]
    simpa [ModuleCall.isLoad] using hbalance

theorem unload {before after : List Stay} {s : Stay} {h' : ModuleHistory}
    (h : Tracks calls (before ++ s :: after)) (hk : StreamWindow.openEnd ∉ k.toList)
    (hs : s.OpenAt (unit, start)) (hafter : ∀ s' ∈ after, ¬s'.OpenAt (unit, start))
    (hu : (run calls).unload? unit start k = some h')
    (hl' : h'.toList = (before ++ s.close k :: after).map Stay.toInstance) :
    Tracks (calls ++ [.unload unit start k]) (before ++ s.close k :: after) where
  paired := .unload h.paired hs hafter
  plain := by
    have hplain := h.plain
    simp only [List.forall_mem_append, List.forall_mem_cons] at hplain ⊢
    refine ⟨hplain.1, ?_, hplain.2.2⟩
    rintro _ ⟨⟩
    exact hk
  toList_eq := by
    rw [run_append_singleton, apply, hu]
    exact hl'
  balance p := by
    -- one stay less is open, one unload more was granted
    obtain ⟨hplace, hopen⟩ := hs
    have hclosed : (s.close k).isOpen = false := rfl
    have hbalance := h.balance p
    rw [unloadCount_append_singleton, loadCount_append_singleton, grants, hu]
    rw [List.countP_append, List.countP_cons] at hbalance ⊢
    simp only [hplace, hopen, hclosed, ModuleCall.isLoad, ModuleCall.place, Option.isSome_some,
      Bool.true_and, Bool.not_false, Bool.false_and, Bool.false_eq_true, if_false] at hbalance ⊢
    omega

/-- **One call leads from one pairing to the next.** -/
theorem step (h : Tracks calls stays) {c : ModuleCall} (hc : c.Plain) :
    ∃ stays', Tracks (calls ++ [c]) stays' := by
  cases c with
  | load unit start stop k => exact ⟨_, h.load⟩
  | unload unit start k =>
    cases hu : (run calls).unload? unit start k with
    | none => exact ⟨stays, h.stray hu⟩
    | some h' =>
      obtain ⟨before, s, after, rfl, hs, hafter, hl'⟩ := h.exists_of_unload?_eq_some hu
      exact ⟨_, h.unload hc hs hafter hu hl'⟩

/-- At each place, as many stays are open as loads outnumber the unloads that were granted. -/
theorem exists_openAt_iff (h : Tracks calls stays) (place : UnitId × UInt64) :
    (∃ s ∈ stays, s.OpenAt place) ↔
      unloadCount (· = place) calls < loadCount (· = place) calls := by
  have hbalance := h.balance (· = place)
  have hpos : (∃ s ∈ stays, s.OpenAt place) ↔
      0 < stays.countP fun s => s.isOpen && decide (s.place = place) := by
    rw [List.countP_pos_iff]
    simp [Stay.OpenAt, and_comm]
  rw [hpos]
  omega

end Tracks

/-- Plain calls can be followed one after another. -/
theorem exists_tracks (hplain : ∀ c ∈ calls, c.Plain) : ∃ stays, Tracks calls stays := by
  induction calls using List.reverseRecOn with
  | nil => exact ⟨[], .nil⟩
  | append_singleton calls c ih =>
    obtain ⟨stays, h⟩ := ih fun d hd => hplain d (by simp [hd])
    exact h.step (hplain c (by simp))

end ModuleHistory

/-! ## The instances in order -/

namespace AddressMap

theorem pairwise_instances (l : List ModuleInstance) : (ofList l).instances.Pairwise fun a b =>
    a.start < b.start ∨ (a.start = b.start ∧ a.stop ≤ b.stop) :=
  (List.pairwise_mergeSort precedes_trans precedes_total l).imp precedes_iff.1

/-- Instances of one range keep the order in which they come. -/
theorem filter_instances (l : List ModuleInstance) (start stop : UInt64) :
    (ofList l).instances.filter (fun i => i.start = start ∧ i.stop = stop) =
      l.filter fun i => i.start = start ∧ i.stop = stop := by
  have hsorted : (l.filter fun i => i.start = start ∧ i.stop = stop).Pairwise fun a b =>
      precedes a b = true := by
    refine List.pairwise_of_forall_mem_list fun a ha b hb => ?_
    simp only [List.mem_filter, decide_eq_true_eq] at ha hb
    obtain ⟨-, rfl, rfl⟩ := ha
    exact precedes_iff.2 (Or.inr ⟨hb.2.1.symm, UInt64.le_of_eq hb.2.2.symm⟩)
  have hsub := (List.sublist_mergeSort precedes_trans precedes_total hsorted
    List.filter_sublist).filter fun i => decide (i.start = start ∧ i.stop = stop)
  simp only [List.filter_filter, Bool.and_self] at hsub
  exact (hsub.eq_of_length ((perm_instances l).filter _).length_eq.symm).symm

end AddressMap

namespace ModuleHistory

variable {calls : List ModuleCall} {stays : List Stay}

/-- How a history keeps to a pairing of the calls. -/
structure Follows (calls : List ModuleCall) (stays : List Stay) : Prop where
  /-- The instances are the stays, in the order of the loads. -/
  toList_eq : (run calls).toList = stays.map Stay.toInstance
  /-- An unload is granted if loads at its place outnumber the unloads that were granted there. -/
  granted_iff : ∀ unit start k, (run calls).grants (.unload unit start k) ↔
    unloadCount (· = (unit, start)) calls < loadCount (· = (unit, start)) calls
  /-- It then closes the last open stay of its place and touches no other. -/
  closes : ∀ unit start k, (run calls).grants (.unload unit start k) →
    ∃ before s after, stays = before ++ s :: after ∧ s.OpenAt (unit, start) ∧
      (∀ s' ∈ after, ¬s'.OpenAt (unit, start)) ∧
      ((run calls).apply (.unload unit start k)).toList =
        (before ++ s.close k :: after).map Stay.toInstance
  /-- An unload that is not granted changes nothing. -/
  stray : ∀ unit start k, (run calls).grants (.unload unit start k) = false →
    (run calls).apply (.unload unit start k) = run calls
  /-- The frozen instances are those that were loaded. -/
  perm : (run calls).freeze.instances.Perm (stays.map Stay.toInstance)
  /-- They stand by ascending start and, among equal starts, ascending end. -/
  sorted : (run calls).freeze.instances.Pairwise fun a b =>
    a.start < b.start ∨ (a.start = b.start ∧ a.stop ≤ b.stop)
  /-- Instances of one range stand in the order of their loads. -/
  stable : ∀ start stop,
    (run calls).freeze.instances.filter (fun i => i.start = start ∧ i.stop = stop) =
      (stays.map Stay.toInstance).filter fun i => i.start = start ∧ i.stop = stop
  /-- The loads that were not unloaded are still loaded. -/
  loaded : (run calls).freeze.instances.countP (·.isLoaded) + unloadCount (fun _ => true) calls =
    loadCount (fun _ => true) calls

theorem Tracks.follows (h : Tracks calls stays) : Follows calls stays where
  toList_eq := h.toList_eq
  granted_iff unit start k := by
    rw [← h.exists_openAt_iff, grants, Option.isSome_iff_ne_none, Ne, h.unload?_eq_none_iff]
    simp
  closes unit start k hgranted := by
    obtain ⟨h', hu⟩ := Option.isSome_iff_exists.1 hgranted
    rw [apply, hu]
    exact h.exists_of_unload?_eq_some hu
  stray unit start k hrefused := by
    rw [grants, Option.isSome_eq_false_iff, Option.isNone_iff_eq_none] at hrefused
    rw [apply, hrefused, Option.getD_none]
  perm := h.toList_eq ▸ AddressMap.perm_instances _
  sorted := AddressMap.pairwise_instances _
  stable start stop := h.toList_eq ▸ AddressMap.filter_instances _ start stop
  loaded := by
    have hbalance := h.balance fun _ => true
    rw [freeze, (AddressMap.perm_instances _).countP_eq, h.toList_eq, List.countP_map]
    have hopen : stays.countP ((·.isLoaded) ∘ Stay.toInstance) =
        stays.countP fun s => s.isOpen && true :=
      List.countP_congr fun s hs => by
        simp [Stay.isLoaded_toInstance (h.plain s hs)]
    rw [hopen]
    exact hbalance

/-- **Loads and unloads pair like brackets**, in every run of calls without the mark for open
windows among their counters. -/
theorem exists_follows (hplain : ∀ c ∈ calls, c.Plain) :
    ∃ stays, Paired calls stays ∧ Follows calls stays := by
  obtain ⟨stays, h⟩ := exists_tracks hplain
  exact ⟨stays, h.paired, h.follows⟩

/-- Of two stays at one address the later one ends first. -/
theorem exists_follows_loaded_twice :
    let calls : List ModuleCall := [.load ⟨1⟩ 16 32 ⟨0, 0, 0⟩, .load ⟨1⟩ 16 48 ⟨1, 2, 0⟩,
      .unload ⟨1⟩ 16 ⟨5, 6, 1⟩]
    (∀ c ∈ calls, c.Plain) ∧ (∃ stays, Paired calls stays ∧ Follows calls stays) ∧
      (run calls).toList.map (·.isLoaded) = [true, false] := by
  intro calls
  have hplain : ∀ c ∈ calls, c.Plain := by decide
  exact ⟨hplain, exists_follows hplain, by decide⟩

end ModuleHistory
end FlowAtlas
