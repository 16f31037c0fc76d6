import FlowAtlas.Files.Tree
import FlowAtlas.Proofs.Stateful
import FlowAtlas.Proofs.Text.Lines
import Mathlib.Data.List.Basic

/-!
# Where a path leads

A path leads to the same location in all trees in which it leads anywhere (`FileTree.goal`,
`eq_goal_of_locate`): the tree decides only whether its pieces can be entered.  So it can be told
from the paths alone that files lie apart.

What stands at the end of a path stays at the end of its location, unless it is very short.  So
files that are named after one thing lie apart when they differ in their endings (`goal_append_ne`).
-/

set_option autoImplicit false

namespace FlowAtlas

/-! ## Goals -/

namespace FileTree

variable {t : FileTree} {current l k : Location} {ps : List Bytes} {path p q : String}

/-- Where a piece leads from a directory. -/
def enter (l : Location) (piece : Bytes) : Location :=
  if piece = here then l else if piece = above then l.dropLast else l ++ [piece]

/-- Where a path leads, if it leads anywhere. -/
def goal (current : Location) (path : String) : Location :=
  (pieces path).foldl enter (start current path)

theorem eq_of_walk (h : t.walk l ps = .ok k) : k = ps.foldl enter l := by
  induction ps generalizing l with
  | nil =>
    cases h
    rfl
  | cons piece ps ih =>
    rw [walk] at h
    rw [List.foldl_cons, enter]
    split at h
    · cases h
    · cases h
    · split at h
      · cases h
      · split at h
        · rename_i hhere
          rw [if_pos hhere]
          exact ih h
        · rename_i hhere
          rw [if_neg hhere]
          split at h
          · rename_i habove
            rw [if_pos habove]
            exact ih h
          · rename_i habove
            rw [if_neg habove]
            exact ih h

theorem eq_goal_of_locate (h : t.locate current path = .ok l) : l = goal current path := by
  rw [locate] at h
  obtain ⟨-, -, h⟩ := Except.bind_eq_ok_iff.1 h
  split at h
  · cases h
  · have hwalk := eq_of_walk h
    rw [List.foldl_append] at hwalk
    rw [hwalk, goal]
    split <;> rfl

theorem enter_of_long {piece : Bytes} (h : 2 < piece.length) : enter l piece = l ++ [piece] := by
  have hhere : piece ≠ here := by
    rintro rfl
    exact absurd h (by decide)
  have habove : piece ≠ above := by
    rintro rfl
    exact absurd h (by decide)
  rw [enter, if_neg hhere, if_neg habove]

theorem enter_cases (piece : Bytes) : (piece = here ∧ ∀ l, enter l piece = l) ∨
    (piece = above ∧ ∀ l, enter l piece = l.dropLast) ∨ ∀ l, enter l piece = l ++ [piece] := by
  by_cases hhere : piece = here
  · exact .inl ⟨hhere, fun l => if_pos hhere⟩
  · by_cases habove : piece = above
    · exact .inr (.inl ⟨habove, fun l => by rw [enter, if_neg hhere, if_pos habove]⟩)
    · exact .inr (.inr fun l => by rw [enter, if_neg hhere, if_neg habove])

/-- Below the root, no two pieces lead to the same place. -/
theorem enter_inj {a b : Bytes} (hl : l ≠ []) (h : enter l a = enter l b) : a = b := by
  have hpos := List.length_pos_iff.2 hl
  rcases enter_cases a with ⟨rfl, ha⟩ | ⟨rfl, ha⟩ | ha <;>
    rcases enter_cases b with ⟨rfl, hb⟩ | ⟨rfl, hb⟩ | hb <;>
      have heq := (ha l).symm.trans (h.trans (hb l)) <;>
        have hlength := congrArg List.length heq <;>
          simp only [List.length_append, List.length_singleton, List.length_dropLast] at hlength <;>
            first | rfl | omega | exact List.singleton_inj.1 (List.append_cancel_left heq)

/-! ## Pieces of a path -/

theorem start_append (hp : p ≠ "") (q : String) : start current (p ++ q) = start current p := by
  have hne : p.toList ≠ [] := fun hnil => hp (String.toList_eq_nil_iff.1 hnil)
  rw [start, start, String.toList_append, List.head?_append_of_ne_nil _ hne]

theorem exists_splitOn_append (x : UInt8) (bs : Bytes) : ∃ front last, ∀ tail : Bytes, x ∉ tail →
    (bs ++ tail).splitOn x = front ++ [last ++ tail] := by
  induction bs with
  | nil => exact ⟨[], [], fun tail h => List.splitOn_eq_singleton h⟩
  | cons b bs ih =>
    obtain ⟨front, last, ih⟩ := ih
    by_cases hb : b = x
    · refine ⟨[] :: front, last, fun tail h => ?_⟩
      rw [List.cons_append, List.splitOn_cons_eq_if_modifyHead, if_pos (beq_iff_eq.2 hb), ih tail h]
      rfl
    · cases front with
      | nil =>
        refine ⟨[], b :: last, fun tail h => ?_⟩
        rw [List.cons_append, List.splitOn_cons_eq_if_modifyHead,
          if_neg fun h => hb (beq_iff_eq.1 h), ih tail h]
        rfl
      | cons first front =>
        refine ⟨(b :: first) :: front, last, fun tail h => ?_⟩
        rw [List.cons_append, List.splitOn_cons_eq_if_modifyHead,
          if_neg fun h => hb (beq_iff_eq.1 h), ih tail h]
        rfl

/-- What stands at the end of a path is at the end of its last name. -/
theorem exists_pieces_append (stem : String) : ∃ front last,
    (∀ ending : String, '/' ∉ ending.toList → ending ≠ "" →
      pieces (stem ++ ending) = front ++ [last ++ Bytes.ofText ending]) ∧
    (pieces stem = front ∨ pieces stem = front ++ [last]) := by
  obtain ⟨front, last, hsplit⟩ := exists_splitOn_append 0x2f (Bytes.ofText stem)
  refine ⟨front.filter (!·.isEmpty), last, fun ending hslash hne => ?_, ?_⟩
  · have hslash : 0x2f ∉ Bytes.ofText ending :=
      fun hmem => hslash ((Bytes.mem_ofText_iff (c := '/') (by decide)).1 hmem)
    have hne : (last ++ Bytes.ofText ending).isEmpty = false := by
      rw [List.isEmpty_eq_false_iff]
      exact List.append_ne_nil_of_right_ne_nil _ (Bytes.ofText_ne_nil hne)
    have hkeep : [last ++ Bytes.ofText ending].filter (!·.isEmpty) =
        [last ++ Bytes.ofText ending] := List.filter_cons_of_pos (by rw [hne]; rfl)
    rw [pieces, Bytes.ofText_append, hsplit _ hslash, List.filter_append, hkeep]
  · have hstem := hsplit [] List.not_mem_nil
    rw [List.append_nil, List.append_nil] at hstem
    rw [pieces, hstem, List.filter_append]
    cases last with
    | nil => exact .inl (List.append_nil _)
    | cons b bs => exact .inr rfl

theorem pieces_append_slash (p q : String) : pieces (p ++ "/" ++ q) = pieces p ++ pieces q := by
  have hslash : Bytes.ofText "/" = [0x2f] := by
    rw [Bytes.ofText_eq]
    rfl
  have hsplit : (Bytes.ofText p ++ 0x2f :: Bytes.ofText q).splitOnP (· == 0x2f) =
      (Bytes.ofText p).splitOnP (· == 0x2f) ++ (Bytes.ofText q).splitOnP (· == 0x2f) :=
    List.splitOnP_append_cons _ _ rfl
  rw [pieces, Bytes.ofText_append, Bytes.ofText_append, hslash, List.append_assoc,
    List.singleton_append, List.splitOn_eq_splitOnP, hsplit, List.filter_append]
  rfl

theorem pieces_of_no_slash (h : '/' ∉ p.toList) (hne : p ≠ "") : pieces p = [Bytes.ofText p] := by
  have hslash : 0x2f ∉ Bytes.ofText p :=
    fun hmem => h ((Bytes.mem_ofText_iff (c := '/') (by decide)).1 hmem)
  have hempty : (Bytes.ofText p).isEmpty = false :=
    List.isEmpty_eq_false_iff.2 (Bytes.ofText_ne_nil hne)
  rw [pieces, List.splitOn_eq_singleton hslash]
  exact List.filter_cons_of_pos (by rw [hempty]; rfl)

end FileTree

/-! ## Endings -/

namespace FileTree

variable {current : Location} {stem ending ending' : String}

theorem start_append_of_no_slash (current : Location) (stem : String)
    (h : '/' ∉ ending.toList) : start current (stem ++ ending) = start current stem := by
  by_cases hstem : stem = ""
  · have hhead : (ending.toList.head? == some '/') = false :=
      beq_eq_false_iff_ne.2 fun hhead => h (List.mem_of_mem_head? hhead)
    rw [hstem, String.empty_append, start, hhead]
    rfl
  · exact start_append hstem ending

/-- A long ending stays with the last name of the location. -/
theorem exists_goal_append (current : Location) (stem : String) : ∃ l last,
    (∀ ending : String, '/' ∉ ending.toList → 2 < ending.toList.length →
      goal current (stem ++ ending) = l ++ [last ++ Bytes.ofText ending]) ∧
    (goal current stem = l ∨ goal current stem = enter l last) := by
  obtain ⟨front, last, hpieces, hstem⟩ := exists_pieces_append stem
  refine ⟨front.foldl enter (start current stem), last, fun ending hslash hlong => ?_, ?_⟩
  · have hbytes := Bytes.length_le_length_ofText ending
    have hpiece : 2 < (last ++ Bytes.ofText ending).length := by
      rw [List.length_append]
      omega
    have hne : ending ≠ "" := by
      rintro rfl
      exact absurd hlong (by decide)
    rw [goal, start_append_of_no_slash current stem hslash, hpieces ending hslash hne,
      List.foldl_append, List.foldl_cons, enter_of_long hpiece]
    rfl
  · rcases hstem with hstem | hstem
    · exact .inl (by rw [goal, hstem])
    · exact .inr (by rw [goal, hstem, List.foldl_append]; rfl)

/-- Names that differ in their endings lie apart. -/
theorem goal_append_ne (hslash : '/' ∉ ending.toList) (hlong : 2 < ending.toList.length)
    (hslash' : '/' ∉ ending'.toList) (hlong' : 2 < ending'.toList.length)
    (hne : ending ≠ ending') : goal current (stem ++ ending) ≠ goal current (stem ++ ending') := by
  obtain ⟨l, last, hgoal, -⟩ := exists_goal_append current stem
  rw [hgoal _ hslash hlong, hgoal _ hslash' hlong']
  exact fun heq => hne (Bytes.ofText_inj (List.append_cancel_left
    (List.singleton_inj.1 (List.append_cancel_left heq))))

/-- A name with an ending lies apart from the name without it. -/
theorem goal_append_ne_self (hslash : '/' ∉ ending.toList) (hlong : 2 < ending.toList.length) :
    goal current (stem ++ ending) ≠ goal current stem := by
  obtain ⟨l, last, hgoal, hstem⟩ := exists_goal_append current stem
  have hbytes := Bytes.length_le_length_ofText ending
  rw [hgoal _ hslash hlong]
  intro heq
  have hlength := congrArg List.length heq
  rcases hstem with hstem | hstem
  · rw [hstem, List.length_append, List.length_singleton] at hlength
    omega
  · rw [hstem] at heq hlength
    rcases enter_cases last with ⟨-, hlast⟩ | ⟨-, hlast⟩ | hlast
    · rw [hlast, List.length_append, List.length_singleton] at hlength
      omega
    · rw [hlast, List.length_append, List.length_singleton, List.length_dropLast] at hlength
      omega
    · rw [hlast] at heq
      have hbytes' := congrArg List.length (List.singleton_inj.1 (List.append_cancel_left heq))
      rw [List.length_append] at hbytes'
      omega

end FileTree

end FlowAtlas
