import Mathlib.Data.List.Basic
import FlowAtlas.Module.Instance

/-!
# Finding the instance of an address

`AddressMap.resolve?` does not look at every instance.  It goes down from the nearest start at or
below the address and stops where not even the longest span would reach up to it.  The main theorem
`resolve?_ofList` says that nothing is missed: the answer is the instance that covers the address at
the position, if there is exactly one, and so it does not depend on the order of the instances.

* `ModuleInstance.Covers` says what it is to cover an address at a position, and
  `ModuleInstance.Alone` that an instance is the only one of a list to do so.
* The instances of a map stand by ascending start (`pairwise_start`), so that what the search passes
  over is a filter (`candidates_eq_filter`).
* Whoever covers an address starts no farther below it than the longest span (`lowest_le_start`).
-/

set_option autoImplicit false

namespace FlowAtlas

/-- On a list that starts with all the elements of a property, taking while is filtering. -/
theorem takeWhile_eq_filter {α : Type} {p : α → Bool} {l : List α}
    (h : l.Pairwise fun a b => p b = true → p a = true) : l.takeWhile p = l.filter p := by
  induction l with
  | nil => rfl
  | cons a l ih =>
    obtain ⟨ha, hl⟩ := List.pairwise_cons.1 h
    by_cases hp : p a = true
    · rw [List.takeWhile_cons_of_pos hp, List.filter_cons_of_pos hp, ih hl]
    · rw [List.takeWhile_cons_of_neg hp, List.filter_cons_of_neg hp, eq_comm,
        List.filter_eq_nil_iff]
      exact fun b hb hpb => hp (ha b hb hpb)

namespace ModuleInstance

variable {i j : ModuleInstance} {tag : UInt64} {stream : StreamKind} {position : Nat}

/-- The address lies in the range of the instance, and the position in its window of the stream. -/
def Covers (i : ModuleInstance) (tag : UInt64) (stream : StreamKind) (position : Nat) : Prop :=
  (i.start ≤ tag ∧ tag ≤ i.stop) ∧
    (i.windows.get stream).load.toNat ≤ position ∧ position < (i.windows.get stream).unload.toNat

instance : Decidable (i.Covers tag stream position) := inferInstanceAs (Decidable (_ ∧ _))

theorem covers_iff : i.covers tag stream position = true ↔ i.Covers tag stream position := by
  simp only [covers, containsAddress, StreamWindow.contains, Covers, Bool.and_eq_true,
    decide_eq_true_eq]

/-- Exactly one element of the list covers the address, and it is `i`. -/
def Alone (l : List ModuleInstance) (i : ModuleInstance) (tag : UInt64) (stream : StreamKind)
    (position : Nat) : Prop :=
  ∃ before after, l = before ++ i :: after ∧ i.Covers tag stream position ∧
    ∀ j ∈ before ++ after, ¬j.Covers tag stream position

theorem alone_iff {l : List ModuleInstance} :
    Alone l i tag stream position ↔ l.filter (·.covers tag stream position) = [i] := by
  rw [List.filter_eq_cons_iff, Alone]
  constructor
  · rintro ⟨before, after, rfl, hi, hrest⟩
    refine ⟨before, after, rfl, fun j hj hc => ?_, covers_iff.2 hi, ?_⟩
    · exact hrest j (List.mem_append_left _ hj) (covers_iff.1 hc)
    · rw [List.filter_eq_nil_iff]
      exact fun j hj hc => hrest j (List.mem_append_right _ hj) (covers_iff.1 hc)
  · rintro ⟨before, after, rfl, hbefore, hi, hafter⟩
    refine ⟨before, after, rfl, covers_iff.1 hi, fun j hj hc => ?_⟩
    rcases List.mem_append.1 hj with hj | hj
    · exact hbefore j hj (covers_iff.2 hc)
    · exact List.filter_eq_nil_iff.1 hafter j hj (covers_iff.2 hc)

/-- Whoever covers an address starts no farther below it than the instance spans. -/
theorem Covers.sub_start_le (h : i.Covers tag stream position) :
    tag.toNat - i.start.toNat ≤ i.span.toNat := by
  obtain ⟨⟨hstart, hstop⟩, -⟩ := h
  have hle : i.start ≤ i.stop := UInt64.le_trans hstart hstop
  rw [span, if_pos hle, UInt64.toNat_sub_of_le _ _ hle]
  rw [UInt64.le_iff_toNat_le] at hstart hstop
  omega

end ModuleInstance

namespace AddressMap

open ModuleInstance

variable {i : ModuleInstance} {l l' : List ModuleInstance} {m : AddressMap} {tag : UInt64}
  {stream : StreamKind} {position : Nat}

/-! ## The order of the instances -/

theorem precedes_iff {a b : ModuleInstance} :
    precedes a b = true ↔ a.start < b.start ∨ (a.start = b.start ∧ a.stop ≤ b.stop) := by
  simp only [precedes, Bool.or_eq_true, Bool.and_eq_true, decide_eq_true_eq, beq_iff_eq]

theorem precedes_trans (a b c : ModuleInstance) (hab : precedes a b = true)
    (hbc : precedes b c = true) : precedes a c = true := by
  simp only [precedes_iff, UInt64.lt_iff_toNat_lt, UInt64.le_iff_toNat_le, ← UInt64.toNat_inj]
    at hab hbc ⊢
  omega

theorem precedes_total (a b : ModuleInstance) : (precedes a b || precedes b a) = true := by
  simp only [Bool.or_eq_true, precedes_iff, UInt64.lt_iff_toNat_lt, UInt64.le_iff_toNat_le,
    ← UInt64.toNat_inj]
  omega

theorem perm_instances (l : List ModuleInstance) : (ofList l).instances.Perm l :=
  List.mergeSort_perm l precedes

theorem pairwise_start (l : List ModuleInstance) :
    (ofList l).instances.Pairwise fun a b => a.start ≤ b.start := by
  refine (List.pairwise_mergeSort precedes_trans precedes_total l).imp fun {a b} hab => ?_
  rcases precedes_iff.1 hab with hlt | ⟨heq, -⟩
  · exact UInt64.le_of_lt hlt
  · exact UInt64.le_of_eq heq

/-! ## The longest span -/

theorem le_max_span (n k : UInt64) : n ≤ max n k ∧ k ≤ max n k := by
  show n ≤ (if n ≤ k then k else n) ∧ k ≤ (if n ≤ k then k else n)
  split
  · rename_i hnk
    exact ⟨hnk, UInt64.le_refl k⟩
  · rename_i hnk
    exact ⟨UInt64.le_refl n, UInt64.le_of_lt (UInt64.not_le.1 hnk)⟩

theorem le_foldl_max {n : UInt64} (l : List ModuleInstance) :
    n ≤ l.foldl (fun n i => max n i.span) n ∧
      ∀ i ∈ l, i.span ≤ l.foldl (fun n i => max n i.span) n := by
  induction l generalizing n with
  | nil => exact ⟨UInt64.le_refl n, by simp⟩
  | cons j l ih =>
    obtain ⟨hn, hspan⟩ := ih (n := max n j.span)
    refine ⟨UInt64.le_trans (le_max_span _ _).1 hn, fun i hi => ?_⟩
    rcases List.mem_cons.1 hi with rfl | hi
    · exact UInt64.le_trans (le_max_span _ _).2 hn
    · exact hspan i hi

theorem span_le_maxSpan (hi : i ∈ (ofList l).instances) : i.span ≤ (ofList l).maxSpan :=
  (le_foldl_max _).2 i hi

/-- The lowest start from which an instance may reach up to an address. -/
def lowest (m : AddressMap) (tag : UInt64) : UInt64 :=
  if m.maxSpan ≤ tag then tag - m.maxSpan else 0

theorem lowest_le_start (hi : i ∈ (ofList l).instances) (hc : i.Covers tag stream position) :
    (ofList l).lowest tag ≤ i.start := by
  have hspan := UInt64.le_iff_toNat_le.1 (span_le_maxSpan hi)
  have hsub := hc.sub_start_le
  rw [lowest]
  split
  · rename_i hmax
    rw [UInt64.le_iff_toNat_le, UInt64.toNat_sub_of_le _ _ hmax]
    omega
  · exact UInt64.le_iff_toNat_le.2 (Nat.zero_le _)

/-! ## The search -/

/-- The instances that the search looks at are those that start in reach of the address. -/
theorem candidates_eq_filter (l : List ModuleInstance) (tag : UInt64) :
    (ofList l).candidates tag = ((ofList l).instances.filter fun i =>
      (ofList l).lowest tag ≤ i.start && i.start ≤ tag).reverse := by
  have hbelow : (ofList l).instances.takeWhile (·.start ≤ tag) =
      (ofList l).instances.filter (·.start ≤ tag) := by
    refine takeWhile_eq_filter ((pairwise_start l).imp fun {a b} hab hb => ?_)
    exact decide_eq_true (UInt64.le_trans hab (of_decide_eq_true hb))
  have habove : ((ofList l).instances.filter (·.start ≤ tag)).reverse.Pairwise fun a b =>
      decide ((ofList l).lowest tag ≤ b.start) = true →
        decide ((ofList l).lowest tag ≤ a.start) = true := by
    rw [List.pairwise_reverse]
    refine ((pairwise_start l).filter _).imp fun {a b} hab ha => ?_
    exact decide_eq_true (UInt64.le_trans (of_decide_eq_true ha) hab)
  show (((ofList l).instances.takeWhile (·.start ≤ tag)).reverse.takeWhile
    fun i => decide ((ofList l).lowest tag ≤ i.start)) = _
  rw [hbelow, takeWhile_eq_filter habove, List.filter_reverse, List.filter_filter]

/-- Among the instances that the search looks at are all that cover the address. -/
theorem filter_candidates_perm (l : List ModuleInstance) (tag : UInt64) (stream : StreamKind)
    (position : Nat) : (((ofList l).candidates tag).filter (·.covers tag stream position)).Perm
      (l.filter (·.covers tag stream position)) := by
  rw [candidates_eq_filter, List.filter_reverse, List.filter_filter]
  refine (List.reverse_perm _).trans (List.Perm.trans (List.Perm.of_eq ?_)
    ((perm_instances l).filter _))
  refine List.filter_congr fun i hi => ?_
  rw [Bool.and_eq_left_iff_imp]
  intro hc
  have hcovers := covers_iff.1 hc
  rw [Bool.and_eq_true]
  exact ⟨decide_eq_true (lowest_le_start hi hcovers), decide_eq_true hcovers.1.1⟩

theorem resolve?_eq_some_iff : (ofList l).resolve? tag stream position = some i ↔
    l.filter (·.covers tag stream position) = [i] := by
  have hperm := filter_candidates_perm l tag stream position
  rw [← List.perm_singleton, ← hperm.congr_left, List.perm_singleton, resolve?]
  split
  · rename_i j hj
    rw [hj, Option.some.injEq, List.cons.injEq, and_iff_left rfl]
  · rename_i hne
    exact iff_of_false (fun h => by cases h) fun h => hne i h

/-- **The search finds the one instance that covers an address**, and finds nothing when none or
several do.  The order of the instances does not matter, and an address is never taken from an
instance that starts above it. -/
theorem resolve?_ofList (l : List ModuleInstance) (tag : UInt64) (stream : StreamKind)
    (position : Nat) :
    (∀ i, (ofList l).resolve? tag stream position = some i ↔ Alone l i tag stream position) ∧
    ((ofList l).resolve? tag stream position = none ↔ ¬∃ i, Alone l i tag stream position) ∧
    (∀ l', l'.Perm l →
      (ofList l').resolve? tag stream position = (ofList l).resolve? tag stream position) ∧
    ∀ i, (ofList l).resolve? tag stream position = some i → i.start ≤ tag ∧
      (ofList l).locate tag stream position = (i.unit, tag - i.start) ∧
      (tag - i.start).toNat = tag.toNat - i.start.toNat := by
  have hsome : ∀ i, (ofList l).resolve? tag stream position = some i ↔
      Alone l i tag stream position := fun i => resolve?_eq_some_iff.trans alone_iff.symm
  refine ⟨hsome, ?_, fun l' hl' => ?_, fun i hi => ?_⟩
  · rw [Option.eq_none_iff_forall_ne_some, not_exists]
    exact forall_congr' fun i => not_congr (hsome i)
  · refine Option.ext fun i => ?_
    rw [resolve?_eq_some_iff, resolve?_eq_some_iff, ← List.perm_singleton, ← List.perm_singleton]
    exact (hl'.filter _).congr_left _
  · obtain ⟨-, -, -, ⟨⟨hstart, -⟩, -⟩, -⟩ := (hsome i).1 hi
    refine ⟨hstart, ?_, UInt64.toNat_sub_of_le _ _ hstart⟩
    rw [locate, hi]

/-- An instance that reaches far up is found below others that start nearer to the address. -/
theorem resolve?_below_shorter :
    let windows : PerStream StreamWindow := ⟨.openAt 0, .openAt 0, .openAt 0⟩
    let long : ModuleInstance := ⟨⟨1⟩, 16, 96, windows⟩
    let short : ModuleInstance := ⟨⟨2⟩, 32, 40, windows⟩
    let closed : ModuleInstance := ⟨⟨3⟩, 64, 96, ⟨⟨0, 5⟩, .openAt 0, .openAt 0⟩⟩
    (ofList [closed, short, long]).resolve? 80 .block 5 = some long ∧
      (ofList [long, closed, short]).resolve? 80 .block 5 = some long := by
  intro windows long short closed
  obtain ⟨hsome, -, hperm, -⟩ := resolve?_ofList [closed, short, long] 80 .block 5
  have hlong : (ofList [closed, short, long]).resolve? 80 .block 5 = some long := by
    refine (hsome long).2 ⟨[closed, short], [], rfl, by decide, fun j hj => ?_⟩
    simp only [List.append_nil, List.mem_cons, List.not_mem_nil, or_false] at hj
    rcases hj with rfl | rfl
    · decide
    · decide
  exact ⟨hlong, (hperm _ (by decide)).trans hlong⟩

end AddressMap
end FlowAtlas
