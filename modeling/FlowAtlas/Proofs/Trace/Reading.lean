import Mathlib.Data.Nat.Find
import FlowAtlas.Proofs.Trace.Stream

/-!
# What a reader answers, call by call

A source may hand out its bytes in pieces of any size and be interrupted in between.  None of this
shows in what a `RecordReader` answers: `answer?_eq_reading` gives the answer to every call in terms
of the bytes that the source holds before it ends or fails (`Delivery.contents`,
`Delivery.failure?`) and of nothing else.

* `Record.reading` is that answer.  Call number `n` gives form number `n` of the bytes, unless a
  form before it could not be read; the call after the last whole form tells how the bytes end; all
  later calls give nothing.
* `Reads` is what the reader is after `n` calls, as long as it has given records only
  (`reads_after`).  `next?_of_lt` and `next?_of_end` say what it answers then.
* `getElem?_readAll`: reading everything at once gives the same answers.
-/

set_option autoImplicit false

namespace FlowAtlas

/-! ## What a source holds -/

namespace Delivery

variable {want : Nat} {source : List Delivery}

/-- The bytes that a source holds before it ends or fails. -/
def contents : List Delivery → Bytes
  | [] => []
  | bytes piece :: rest => piece ++ contents rest
  | interrupted :: rest => contents rest
  | failed _ :: _ => []

/-- Why a source fails, if it does. -/
def failure? : List Delivery → Option String
  | [] => none
  | bytes _ :: rest => failure? rest
  | interrupted :: rest => failure? rest
  | failed cause :: _ => some cause

/-- As many bytes as are wanted come in order, however they are cut into pieces. -/
theorem exists_gather_of_le (inHand : Bytes) (hpos : 0 < want)
    (hwant : want ≤ (contents source).length) :
    ∃ rest, gather want inHand source = (.ok (inHand ++ (contents source).take want), rest) ∧
      contents rest = (contents source).drop want ∧ failure? rest = failure? source := by
  induction source generalizing want inHand with
  | nil =>
    simp only [contents, List.length_nil] at hwant
    omega
  | cons d source ih =>
    cases d with
    | interrupted => exact ih inHand hpos hwant
    | failed cause =>
      simp only [contents, List.length_nil] at hwant
      omega
    | bytes piece =>
      rw [contents, List.length_append] at hwant
      rw [gather, contents, failure?]
      split
      · rename_i hle
        refine ⟨bytes (piece.drop want) :: source, ?_, ?_, rfl⟩
        · rw [List.take_append_of_le_length hle]
        · rw [contents, List.drop_append_of_le_length hle]
      · -- the piece is used up, and the rest of what is wanted comes from behind it
        rename_i hle
        have hpiece : piece.length ≤ want := by omega
        obtain ⟨rest, hgather, hcontents, hfailure⟩ :=
          ih (inHand ++ piece) (show 0 < want - piece.length by omega) (by omega)
        refine ⟨rest, ?_, ?_, hfailure⟩
        · rw [hgather, List.append_assoc, List.take_append, List.take_of_length_le hpiece]
        · rw [hcontents, List.drop_append, List.drop_of_length_le hpiece, List.nil_append]

/-- A source that holds too few bytes gives all of them, or fails. -/
theorem exists_gather_of_lt (inHand : Bytes) (hwant : (contents source).length < want) :
    ∃ rest, gather want inHand source =
      (match failure? source with
        | some cause => .error cause
        | none => .ok (inHand ++ contents source), rest) := by
  induction source generalizing want inHand with
  | nil => exact ⟨[], by simp [gather, failure?, contents]⟩
  | cons d source ih =>
    cases d with
    | interrupted => exact ih inHand hwant
    | failed cause => exact ⟨source, rfl⟩
    | bytes piece =>
      rw [contents, List.length_append] at hwant
      have hle : ¬want ≤ piece.length := by omega
      obtain ⟨rest, hgather⟩ :=
        ih (inHand ++ piece) (show (contents source).length < want - piece.length by omega)
      refine ⟨rest, ?_⟩
      rw [gather, if_neg hle, hgather, failure?, contents, List.append_assoc]

end Delivery

/-! ## What is to be read -/

namespace Record

section

variable (α : Type) [Record α] (bs : Bytes)

/-- Form number `i`. -/
def form (i : Nat) : Bytes := (bs.drop (i * size α)).take (size α)

/-- How many whole forms there are. -/
def wholeForms : Nat := bs.length / size α

/-- Whether form number `i` is a form of no value. -/
def isFaulty (i : Nat) : Bool :=
  match (decode (form α bs i) : Except UnknownKind α) with
  | .ok _ => false
  | .error _ => true

/-- What form number `i` is read as. -/
def item (i : Nat) : Except TraceError (Nat × α) :=
  match (decode (form α bs i) : Except UnknownKind α) with
  | .ok v => .ok (i, v)
  | .error kind => .error (RecordReader.unknownKind (stream α) i kind)

/-- What comes after the whole forms: the failure of the source, a form that is cut short, or
nothing. -/
def ending (failure : Option String) : Option (Except TraceError (Nat × α)) :=
  match failure with
  | some cause => some (.error (.io (stream α) cause))
  | none =>
    if bs.length % size α = 0 then none
    else some (.error (.truncated (stream α) (wholeForms α bs) (bs.length % size α) (size α)))

/-- The answer to call number `n`, for a source that holds these bytes and then ends or fails. -/
def reading (failure : Option String) (n : Nat) : Option (Except TraceError (Nat × α)) :=
  if ∃ i < min n (wholeForms α bs), isFaulty α bs i then none
  else if n < wholeForms α bs then some (item α bs n)
  else if n = wholeForms α bs then ending α bs failure
  else none

end

variable {α : Type} [Record α] {bs : Bytes} {i : Nat}

theorem mul_size_le_of_lt (h : i < wholeForms α bs) : (i + 1) * size α ≤ bs.length :=
  (Nat.le_div_iff_mul_le size_pos).1 h

theorem length_form (h : i < wholeForms α bs) : (form α bs i).length = size α := by
  have hle := mul_size_le_of_lt h
  rw [Nat.succ_mul] at hle
  rw [form, List.length_take, List.length_drop]
  omega

end Record

/-! ## Calls one after another -/

namespace RecordReader

open Record (reading item ending isFaulty wholeForms form size size_pos)

variable {α : Type} [Record α] {r r' : RecordReader α} {bs : Bytes} {failure : Option String}
  {n m : Nat} {x : Option (Except TraceError (Nat × α))}

/-- What is left after `n` calls. -/
def after (r : RecordReader α) : Nat → RecordReader α
  | 0 => r
  | n + 1 => (r.after n).next?.2

/-- The answer to call number `n`, counted from zero. -/
def answer? (r : RecordReader α) (n : Nat) : Option (Except TraceError (Nat × α)) :=
  (r.after n).next?.1

theorem after_succ (r : RecordReader α) (n : Nat) : r.after (n + 1) = r.next?.2.after n := by
  induction n with
  | zero => rfl
  | succ n ih => rw [after, ih, after]

theorem answer?_succ (r : RecordReader α) (n : Nat) : r.answer? (n + 1) = r.next?.2.answer? n := by
  rw [answer?, after_succ, answer?]

/-! ### Errors and ends are final -/

theorem next?_of_done (h : r.done = true) : r.next? = (none, r) := by rw [next?, if_pos h]

theorem after_of_done (h : r.done = true) (n : Nat) : r.after n = r := by
  induction n with
  | zero => rfl
  | succ n ih => rw [after, ih, next?_of_done h]

/-- **After an error or the end there is nothing more.** -/
theorem answer?_of_done_after (h : (r.after m).done = true) (hn : m ≤ n) : r.answer? n = none := by
  induction m generalizing r n with
  | zero =>
    have hdone : r.done = true := h
    rw [answer?, after_of_done hdone, next?_of_done hdone]
  | succ m ih =>
    obtain ⟨k, rfl⟩ := Nat.exists_eq_add_of_le' (Nat.one_le_of_lt hn)
    rw [after_succ] at h
    rw [answer?_succ]
    exact ih h (Nat.le_of_succ_le_succ hn)

/-! ### As long as there are records -/

/-- The reader has given the first `n` forms of `bs` as records, and has the others before it. -/
structure Reads (bs : Bytes) (failure : Option String) (n : Nat) (r : RecordReader α) : Prop where
  contents_eq : Delivery.contents r.source = bs.drop (n * size α)
  failure_eq : Delivery.failure? r.source = failure
  position_eq : r.position = n
  not_done : r.done = false

/-- The next whole form is the next answer.  Unless it is faulty the reader goes on behind it. -/
theorem next?_of_lt (h : Reads bs failure n r) (hn : n < wholeForms α bs) :
    ∃ r', r.next? = (some (item α bs n), r') ∧ (isFaulty α bs n = true → r'.done = true) ∧
      (isFaulty α bs n = false → Reads bs failure (n + 1) r') := by
  have hpos : 0 < size α := size_pos
  have hform := Record.length_form hn
  have hwant : size α ≤ (Delivery.contents r.source).length := by
    rw [form, List.length_take] at hform
    rw [h.contents_eq]
    omega
  obtain ⟨rest, hgather, hcontents, hfailure⟩ :=
    Delivery.exists_gather_of_le [] hpos hwant
  rw [List.nil_append, h.contents_eq] at hgather
  rw [h.contents_eq, List.drop_drop] at hcontents
  have hgather : Delivery.gather (size α) [] r.source = (.ok (form α bs n), rest) := hgather
  have hne : (form α bs n).isEmpty = false := by
    rw [List.isEmpty_eq_false_iff_exists_mem, ← List.length_pos_iff_exists_mem, hform]
    exact hpos
  have hshort : ¬(form α bs n).length < size α := by omega
  rw [next?, h.not_done]
  dsimp only
  rw [hgather]
  simp only [hne, hshort, if_false, Bool.false_eq_true, h.position_eq, item, isFaulty]
  cases hdecode : (Record.decode (form α bs n) : Except UnknownKind α) with
  | ok v =>
    refine ⟨_, rfl, fun hfaulty => absurd hfaulty Bool.false_ne_true, fun _ => ?_⟩
    exact ⟨by rw [hcontents, Nat.succ_mul], hfailure.trans h.failure_eq, rfl, rfl⟩
  | error kind =>
    exact ⟨_, rfl, fun _ => rfl, fun hsound => absurd hsound.symm Bool.false_ne_true⟩

/-- Behind the last whole form the reader tells how the bytes end, and is done. -/
theorem next?_of_end (h : Reads bs failure (wholeForms α bs) r) :
    ∃ r', r.next? = (ending α bs failure, r') ∧ r'.done = true := by
  have hpos : 0 < size α := size_pos
  have hlength : (bs.drop (wholeForms α bs * size α)).length = bs.length % size α := by
    rw [List.length_drop, wholeForms, Nat.mod_eq_sub_div_mul]
  have hlt := Nat.mod_lt bs.length hpos
  have hwant : (Delivery.contents r.source).length < size α := by
    rw [h.contents_eq, hlength]
    exact hlt
  obtain ⟨rest, hgather⟩ := Delivery.exists_gather_of_lt [] hwant
  rw [h.contents_eq, h.failure_eq, List.nil_append] at hgather
  rw [next?, h.not_done]
  dsimp only
  rw [hgather]
  cases failure with
  | some cause => exact ⟨_, rfl, rfl⟩
  | none =>
    rw [ending]
    have hempty : (bs.drop (wholeForms α bs * size α)).isEmpty = true ↔
        bs.length % size α = 0 := by
      rw [← hlength, List.isEmpty_iff, List.length_eq_zero_iff]
    dsimp only
    simp only [hempty, hlength, hlt, if_true, if_false, Bool.false_eq_true, h.position_eq]
    split
    · exact ⟨_, rfl, rfl⟩
    · exact ⟨_, rfl, rfl⟩

/-- **While no form is faulty the reader gives one after the other.** -/
theorem reads_after (h : Reads bs failure 0 r) (hn : n ≤ wholeForms α bs)
    (hsound : ∀ i < n, isFaulty α bs i = false) : Reads bs failure n (r.after n) := by
  induction n with
  | zero => exact h
  | succ n ih =>
    have hreads := ih (Nat.le_of_succ_le hn) fun i hi => hsound i (Nat.lt_succ_of_lt hi)
    obtain ⟨r', hnext, -, hr'⟩ := next?_of_lt hreads hn
    rw [after, hnext]
    exact hr' (hsound n (Nat.lt_succ_self n))

/-- The reader is done once it has met a faulty form. -/
theorem done_after_of_isFaulty (h : Reads bs failure 0 r) (hn : n < wholeForms α bs)
    (hfaulty : isFaulty α bs n) : ∃ m ≤ n + 1, (r.after m).done = true := by
  classical
  -- the first faulty form is the one that the reader meets
  have hex : ∃ i, isFaulty α bs i = true := ⟨n, hfaulty⟩
  have hfirst : isFaulty α bs (Nat.find hex) = true := Nat.find_spec hex
  have hle : Nat.find hex ≤ n := Nat.find_min' hex hfaulty
  have hreads := reads_after h (n := Nat.find hex) (by omega) fun i hi =>
    Bool.eq_false_iff.2 (Nat.find_min hex hi)
  obtain ⟨r', hnext, hdone, -⟩ := next?_of_lt hreads (Nat.lt_of_le_of_lt hle hn)
  refine ⟨Nat.find hex + 1, Nat.succ_le_succ hle, ?_⟩
  rw [after, hnext]
  exact hdone hfirst

theorem answer?_of_reads (h : Reads bs failure 0 r) (n : Nat) :
    r.answer? n = reading α bs failure n := by
  rw [reading]
  split
  · rename_i hfaulty
    obtain ⟨i, hi, hfaulty⟩ := hfaulty
    obtain ⟨m, hm, hdone⟩ := done_after_of_isFaulty h (Nat.lt_of_lt_of_le hi (Nat.min_le_right ..))
      hfaulty
    exact answer?_of_done_after hdone (by omega)
  · rename_i hsound
    have hsound : ∀ i < min n (wholeForms α bs), isFaulty α bs i = false := fun i hi =>
      Bool.eq_false_iff.2 fun hfaulty => hsound ⟨i, hi, hfaulty⟩
    split
    · rename_i hn
      rw [Nat.min_eq_left (Nat.le_of_lt hn)] at hsound
      obtain ⟨r', hnext, -⟩ := next?_of_lt (reads_after h (Nat.le_of_lt hn) hsound) hn
      rw [answer?, hnext]
    · rename_i hn
      rw [Nat.min_eq_right (Nat.le_of_not_lt hn)] at hsound
      obtain ⟨r', hnext, hdone⟩ := next?_of_end (reads_after h (Nat.le_refl _) hsound)
      split
      · rename_i heq
        rw [answer?, heq, hnext]
      · refine answer?_of_done_after (m := wholeForms α bs + 1) ?_ (by omega)
        rw [after, hnext]
        exact hdone

/-! ### Reading everything at once -/

theorem done_of_next? (h : r.next? = (x, r')) (hx : ∀ q, x ≠ some (.ok q)) : r'.done = true := by
  rw [next?] at h
  split at h
  · rename_i hdone
    cases h
    exact hdone
  · dsimp only at h
    split at h
    · cases h
      rfl
    · split at h
      · cases h
        rfl
      · split at h
        · cases h
          rfl
        · split at h
          · cases h
            exact absurd rfl (hx _)
          · cases h
            rfl

/-- Reading everything gives the answers up to the first that is no record. -/
theorem getElem?_readAll (r : RecordReader α) (n : Nat) : r.readAll.1[n]? = r.answer? n := by
  induction n generalizing r with
  | zero =>
    rw [answer?, after]
    cases hnext : r.next? with
    | mk x r' =>
      cases x with
      | none => rw [readAll_of_end hnext]; rfl
      | some item =>
        cases item with
        | error cause => rw [readAll_of_error hnext]; rfl
        | ok q => rw [readAll_of_record hnext]; rfl
  | succ n ih =>
    rw [answer?_succ]
    cases hnext : r.next? with
    | mk x r' =>
      cases x with
      | none =>
        have hdone := done_of_next? hnext (fun _ => nofun)
        rw [readAll_of_end hnext, answer?_of_done_after (m := 0) hdone (Nat.zero_le n)]
        rfl
      | some item =>
        cases item with
        | error cause =>
          have hdone := done_of_next? hnext (fun _ => nofun)
          rw [readAll_of_error hnext, answer?_of_done_after (m := 0) hdone (Nat.zero_le n)]
          rfl
        | ok q =>
          rw [readAll_of_record hnext]
          exact ih r'

/-- The answers of a reader that has not begun. -/
theorem answer?_eq (source : List Delivery) (n : Nat) :
    (⟨source, 0, false⟩ : RecordReader α).answer? n =
      reading α (Delivery.contents source) (Delivery.failure? source) n :=
  answer?_of_reads ⟨by rw [Nat.zero_mul, List.drop_zero], rfl, rfl, rfl⟩ n

/-- **What a reader answers depends only on the bytes.**  Whatever the pieces in which the source
hands them out, and wherever it is interrupted, call number `n` gives what `Record.reading` says for
the bytes that come before the source ends or fails; and reading everything at once gives the same
answers. -/
theorem answer?_eq_reading (α : Type) [Record α] (source : List Delivery) (n : Nat) :
    (⟨source, 0, false⟩ : RecordReader α).answer? n =
        reading α (Delivery.contents source) (Delivery.failure? source) n ∧
      (⟨source, 0, false⟩ : RecordReader α).readAll.1[n]? =
        reading α (Delivery.contents source) (Delivery.failure? source) n :=
  ⟨answer?_eq source n, (getElem?_readAll _ n).trans (answer?_eq source n)⟩

end RecordReader
end FlowAtlas
