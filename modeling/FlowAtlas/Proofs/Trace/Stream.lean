import FlowAtlas.Trace.Stream

/-!
# The bytes of a record stream

A file of records is the forms of the records one after another, `Record.Forms`, and the positions
are counted from zero, `Record.numbered`.  A reader finds just that
(`RecordReader.readAll_of_forms`, `RecordReader.forms_of_readAll`): so files may be put together
from forms, and what one file after another holds is what each of them holds, at later positions.
-/

set_option autoImplicit false

namespace FlowAtlas

/-! ## Forms and positions -/

namespace Record

variable {α : Type}

/-- The values with their positions, from a position on. -/
def numbered (position : Nat) : List α → List (Nat × α)
  | [] => []
  | v :: values => (position, v) :: numbered (position + 1) values

theorem numbered_append (position : Nat) (values values' : List α) :
    numbered position (values ++ values') =
      numbered position values ++ numbered (position + values.length) values' := by
  induction values generalizing position with
  | nil => rfl
  | cons v values ih =>
    rw [List.cons_append, numbered, ih, numbered, List.length_cons, List.cons_append,
      Nat.add_assoc, Nat.add_comm 1]

@[simp] theorem map_snd_numbered (position : Nat) (values : List α) :
    (numbered position values).map Prod.snd = values := by
  induction values generalizing position with
  | nil => rfl
  | cons v values ih => rw [numbered, List.map_cons, ih]

@[simp] theorem length_numbered (position : Nat) (values : List α) :
    (numbered position values).length = values.length := by
  rw [← List.length_map Prod.snd, map_snd_numbered]

theorem numbered_eq_nil_iff {position : Nat} {values : List α} :
    numbered position values = [] ↔ values = [] := by
  rw [← List.length_eq_zero_iff, length_numbered, List.length_eq_zero_iff]

/-- Every value has a position. -/
theorem exists_mem_numbered {v : α} {values : List α} (hv : v ∈ values) (position : Nat) :
    ∃ p, (p, v) ∈ numbered position values := by
  rw [← map_snd_numbered position values] at hv
  obtain ⟨⟨p, v'⟩, hq, rfl⟩ := List.mem_map.1 hv
  exact ⟨p, hq⟩

theorem mem_of_mem_numbered {position : Nat} {values : List α} {q : Nat × α}
    (hq : q ∈ numbered position values) : q.2 ∈ values := by
  rw [← map_snd_numbered position values]
  exact List.mem_map_of_mem hq

theorem lt_of_mem_numbered {position : Nat} {values : List α} {q : Nat × α}
    (hq : q ∈ numbered position values) : q.1 < position + values.length := by
  induction values generalizing position with
  | nil => cases hq
  | cons v values ih =>
    rw [List.length_cons]
    rcases List.mem_cons.1 hq with rfl | hq
    · exact Nat.lt_add_of_pos_right (Nat.succ_pos _)
    · have hlt := ih hq
      omega

variable [Record α]

/-- The bytes are forms of these values, one after another. -/
inductive Forms : Bytes → List α → Prop
  | nil : Forms [] []
  | cons {form rest : Bytes} {v : α} {values : List α} (hsize : form.length = size α)
    (hform : decode form = .ok v) (hrest : Forms rest values) : Forms (form ++ rest) (v :: values)

namespace Forms

variable {bs bs' : Bytes} {values values' : List α}

theorem append (h : Forms bs values) (h' : Forms bs' values') :
    Forms (bs ++ bs') (values ++ values') := by
  induction h with
  | nil => exact h'
  | cons hsize hform _ ih =>
    rw [List.append_assoc]
    exact .cons hsize hform ih

theorem length_eq (h : Forms bs values) : bs.length = values.length * size α := by
  induction h with
  | nil => exact (Nat.zero_mul _).symm
  | cons hsize _ _ ih =>
    rw [List.length_append, hsize, ih, List.length_cons, Nat.succ_mul, Nat.add_comm]

end Forms

theorem toBytes_eq (values : List α) : toBytes values = values.flatMap encode := by
  have hwrite : ∀ (values : List α) (w : RecordWriter),
      (w.writeAll values).bytes.toList = w.bytes.toList ++ values.flatMap encode := by
    intro values
    induction values with
    | nil => exact fun w => (List.append_nil _).symm
    | cons v values ih =>
      intro w
      rw [List.flatMap_cons, ← List.append_assoc]
      refine (ih (w.write v)).trans (congrArg (· ++ values.flatMap encode) ?_)
      simp [RecordWriter.write]
  exact hwrite values {}

/-- A file of written records holds their forms, if each of them can be read. -/
theorem forms_toBytes {values : List α}
    (h : ∀ v ∈ values, (encode v).length = size α ∧ decode (encode v) = .ok v) :
    Forms (toBytes values) values := by
  rw [toBytes_eq]
  induction values with
  | nil => exact .nil
  | cons v values ih =>
    obtain ⟨⟨hsize, hform⟩, hrest⟩ := List.forall_mem_cons.1 h
    exact .cons hsize hform (ih hrest)

end Record

/-! ## Reading -/

namespace RecordReader

open Record (Forms numbered)

variable {α : Type} [Record α] {bs rest : Bytes} {position : Nat} {values : List α}
  {records : List (Nat × α)} {r r' : RecordReader α} {q : Nat × α} {cause : TraceError}

theorem readAll_of_end (h : r.next? = (none, r')) : r.readAll = ([], r') := by
  rw [readAll]
  split
  · rename_i h'
    cases h.symm.trans h'
    rfl
  · rename_i h'
    cases h.symm.trans h'
  · rename_i h'
    cases h.symm.trans h'

theorem readAll_of_error (h : r.next? = (some (.error cause), r')) :
    r.readAll = ([.error cause], r') := by
  rw [readAll]
  split
  · rename_i h'
    cases h.symm.trans h'
  · rename_i h'
    cases h.symm.trans h'
    rfl
  · rename_i h'
    cases h.symm.trans h'

theorem readAll_of_record (h : r.next? = (some (.ok q), r')) :
    r.readAll = (.ok q :: r'.readAll.1, r'.readAll.2) := by
  rw [readAll]
  split
  · rename_i h'
    cases h.symm.trans h'
  · rename_i h'
    cases h.symm.trans h'
  · rename_i h'
    cases h.symm.trans h'
    rfl

theorem next?_nil : (⟨[.bytes []], position, false⟩ : RecordReader α).next? =
    (none, ⟨[], position, true⟩) := by
  have hpos := Record.size_pos (α := α)
  have hgather : Delivery.gather (Record.size α) [] [.bytes []] = (.ok [], []) := by
    rw [Delivery.gather, List.length_nil, if_neg (Nat.not_le_of_lt hpos)]
    rfl
  simp [next?, hgather]

/-- Bytes that begin with a whole form are taken apart behind it. -/
theorem next?_append (rest : Bytes) (position : Nat) (hsize : bs.length = Record.size α) :
    (⟨[.bytes (bs ++ rest)], position, false⟩ : RecordReader α).next? =
      match (Record.decode bs : Except UnknownKind α) with
      | .ok v => (some (.ok (position, v)), ⟨[.bytes rest], position + 1, false⟩)
      | .error kind => (some (.error (unknownKind (Record.stream α) position kind)),
          ⟨[.bytes rest], position + 1, true⟩) := by
  have hpos := Record.size_pos (α := α)
  have hgather : Delivery.gather (Record.size α) [] [.bytes (bs ++ rest)] =
      (.ok bs, [.bytes rest]) := by
    rw [Delivery.gather, if_pos (by simp [← hsize]), ← hsize]
    simp
  have hne : bs.isEmpty = false := by
    cases bs with
    | nil => exact absurd hsize (Nat.ne_of_lt hpos)
    | cons b bs => rfl
  cases hform : (Record.decode bs : Except UnknownKind α) with
  | ok v => simp [next?, hgather, hne, hsize, hform]
  | error kind => simp [next?, hgather, hne, hsize, hform]

/-- Bytes that end within a form are an error. -/
theorem next?_short (position : Nat) (hne : bs ≠ []) (hshort : bs.length < Record.size α) :
    ∃ (cause : TraceError) (r' : RecordReader α),
      (⟨[.bytes bs], position, false⟩ : RecordReader α).next? = (some (.error cause), r') := by
  have hgather : Delivery.gather (Record.size α) [] [.bytes bs] = (.ok bs, []) := by
    rw [Delivery.gather, if_neg (by omega)]
    rfl
  have hfull : bs.isEmpty = false := by simpa using hne
  refine ⟨.truncated (Record.stream α) position bs.length (Record.size α),
    ⟨[], position, true⟩, ?_⟩
  rw [next?]
  simp only [hgather, hfull, hshort, if_true, if_false, Bool.false_eq_true]

theorem readAll_of_forms (h : Forms bs values) (position : Nat) :
    (⟨[.bytes bs], position, false⟩ : RecordReader α).readAll.1 =
      (numbered position values).map .ok := by
  induction h generalizing position with
  | nil => rw [readAll_of_end next?_nil]; rfl
  | @cons form rest v values hsize hform _ ih =>
    have hnext := next?_append rest position hsize
    rw [hform] at hnext
    rw [readAll_of_record hnext, ih]
    rfl

/-- A reader that gives records only meets no error. -/
theorem next?_ne_error (h : r.readAll.1 = records.map .ok) :
    r.next? ≠ (some (.error cause), r') := by
  intro hnext
  rw [readAll_of_error hnext] at h
  cases records with
  | nil => cases h
  | cons q records => cases (List.cons.inj h).1

/-- **A reader that meets no error has read the forms of the records.** -/
theorem forms_of_readAll (h : (⟨[.bytes bs], position, false⟩ : RecordReader α).readAll.1 =
    records.map .ok) : ∃ values, Forms bs values ∧ records = numbered position values := by
  induction hn : bs.length using Nat.strongRecOn generalizing bs position records with
  | _ n ih =>
    by_cases hnil : bs = []
    · subst hnil
      rw [readAll_of_end next?_nil] at h
      rw [List.map_eq_nil_iff.1 h.symm]
      exact ⟨[], .nil, rfl⟩
    · by_cases hshort : bs.length < Record.size α
      · obtain ⟨cause, r', hnext⟩ := next?_short position hnil hshort
        exact absurd hnext (next?_ne_error h)
      · -- the reader takes the first form, and goes on behind it
        have hsize : (bs.take (Record.size α)).length = Record.size α := by
          rw [List.length_take]
          omega
        have hpos := Record.size_pos (α := α)
        have hrest : (bs.drop (Record.size α)).length < n := by
          rw [List.length_drop]
          omega
        have hnext := next?_append (bs.drop (Record.size α)) position hsize
        rw [List.take_append_drop] at hnext
        cases hform : Record.decode (α := α) (bs.take (Record.size α)) with
        | error kind =>
          rw [hform] at hnext
          exact absurd hnext (next?_ne_error h)
        | ok v =>
          rw [hform] at hnext
          rw [readAll_of_record hnext] at h
          obtain ⟨q, records', rfl, hq, hrecords⟩ := List.map_eq_cons_iff.1 h.symm
          cases hq
          obtain ⟨values, hforms, rfl⟩ := ih _ hrest hrecords.symm rfl
          refine ⟨v :: values, ?_, rfl⟩
          rw [← List.take_append_drop (Record.size α) bs]
          exact .cons hsize hform hforms

end RecordReader

end FlowAtlas
