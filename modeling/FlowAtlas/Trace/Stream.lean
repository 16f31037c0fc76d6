import FlowAtlas.Trace.Record

/-!
# Streams of records

A `RecordReader` takes records from a source that hands out bytes in pieces of any size, may be
interrupted, and may fail. Each record comes with its position, which counts records from zero.

* `RecordReader.next?` gives the next record or what is wrong with it; after an error or the end it
  gives nothing more.
* `RecordReader.readAll` gives everything up to that point, and `Record.ofBytes` does so for the
  contents of a file.
* A `RecordWriter` puts the forms of records one after another and counts them.
-/

set_option autoImplicit false

namespace FlowAtlas

/-- Why a stream of records ends early. -/
inductive TraceError
  /-- The source failed. -/
  | io (stream : String) (cause : String)
  /-- The source ended within a record. -/
  | truncated (stream : String) (position bytes expected : Nat)
  /-- A block of unknown kind. -/
  | unknownNodeKind (stream : String) (position : Nat) (code : UInt8)
  /-- An edge of unknown kind. -/
  | unknownEdgeKind (stream : String) (position : Nat) (code : UInt8)
  deriving DecidableEq, Repr

/-- The wording of the fault. -/
def TraceError.message : TraceError → String
  | io stream cause => "I/O error reading " ++ stream ++ " stream: " ++ cause
  | truncated stream position bytes expected =>
    stream ++ " stream ends with a truncated record at position " ++ Numeral.decimal position ++
      " (" ++ Numeral.decimal bytes ++ " of " ++ Numeral.decimal expected ++ " bytes)"
  | unknownNodeKind stream position code =>
    stream ++ " record " ++ Numeral.decimal position ++ ": unknown node type ordinal " ++
      Numeral.decimal code.toNat
  | unknownEdgeKind stream position code =>
    stream ++ " record " ++ Numeral.decimal position ++ ": unknown edge type ordinal " ++
      Numeral.decimal code.toNat

/-! ## Sources -/

/-- What one request to a source brings. -/
inductive Delivery
  /-- The next bytes. -/
  | bytes (bs : Bytes)
  /-- Nothing yet: ask again. -/
  | interrupted
  /-- A failure. -/
  | failed (cause : String)
  deriving DecidableEq, Repr

namespace Delivery

/-- How many bytes the deliveries bring together. -/
def total : List Delivery → Nat
  | [] => 0
  | bytes bs :: rest => bs.length + total rest
  | interrupted :: rest => total rest
  | failed _ :: rest => total rest

/-- Gather `want` bytes behind those in hand, or as many as there are, and leave the rest. -/
def gather (want : Nat) (inHand : Bytes) : List Delivery → Except String Bytes × List Delivery
  | [] => (.ok inHand, [])
  | interrupted :: rest => gather want inHand rest
  | failed cause :: rest => (.error cause, rest)
  | bytes bs :: rest =>
    if want ≤ bs.length then (.ok (inHand ++ bs.take want), bytes (bs.drop want) :: rest)
    else gather (want - bs.length) (inHand ++ bs) rest

/-- Gathering loses no byte. -/
theorem total_gather {want : Nat} {inHand got : Bytes} {source rest : List Delivery}
    (h : gather want inHand source = (.ok got, rest)) :
    got.length + total rest = inHand.length + total source := by
  induction source generalizing want inHand with
  | nil => simp_all [gather, total]
  | cons d source ih =>
    cases d with
    | interrupted => simpa [total] using ih (by simpa [gather] using h)
    | failed cause => simp [gather] at h
    | bytes bs =>
      rw [gather] at h
      split at h
      · obtain ⟨rfl, rfl⟩ : inHand ++ bs.take want = got ∧ _ := by simpa using h
        simp only [total, List.length_append, List.length_take, List.length_drop]
        omega
      · have := ih h
        simp only [total, List.length_append] at this ⊢
        omega

end Delivery

/-! ## Reading -/

/-- What is left of a stream of records of type `α`. -/
structure RecordReader (α : Type) where
  source : List Delivery
  /-- How many records were taken. -/
  position : Nat := 0
  /-- Whether an error or the end was met. -/
  done : Bool := false

namespace RecordReader

variable {α : Type} [Record α]

/-- The error for a record that does not decode. -/
def unknownKind (stream : String) (position : Nat) : UnknownKind → TraceError
  | .node code => .unknownNodeKind stream position code
  | .edge code => .unknownEdgeKind stream position code

/-- The next record with its position, or what is wrong with it. -/
def next? (r : RecordReader α) : Option (Except TraceError (Nat × α)) × RecordReader α :=
  if r.done then (none, r)
  else
    let stream := Record.stream α
    let size := Record.size α
    match Delivery.gather size [] r.source with
    | (.error cause, source) => (some (.error (.io stream cause)), ⟨source, r.position, true⟩)
    | (.ok bs, source) =>
      if bs.isEmpty then (none, ⟨source, r.position, true⟩)
      else if bs.length < size then
        (some (.error (.truncated stream r.position bs.length size)), ⟨source, r.position, true⟩)
      else
        match Record.decode bs with
        | .ok record => (some (.ok (r.position, record)), ⟨source, r.position + 1, false⟩)
        | .error kind =>
          (some (.error (unknownKind stream r.position kind)), ⟨source, r.position + 1, true⟩)

/-- Each record takes bytes from the source. -/
theorem total_next?_lt {r r' : RecordReader α} {x : Nat × α} (h : r.next? = (some (.ok x), r')) :
    Delivery.total r'.source < Delivery.total r.source := by
  unfold next? at h
  split at h
  · simp at h
  · dsimp only at h
    split at h
    · simp at h
    · rename_i bs source hg
      have htotal := Delivery.total_gather hg
      split at h
      · simp at h
      · rename_i hne
        have hpos : 0 < bs.length := by
          cases bs with
          | nil => simp at hne
          | cons b bs => simp
        split at h
        · simp at h
        · split at h
          · simp only [Prod.mk.injEq] at h
            rw [← h.2]
            simp only [List.length_nil] at htotal
            show Delivery.total source < _
            omega
          · simp at h

/-- Every record up to the end or the first error, and what the reader then is. -/
def readAll (r : RecordReader α) : List (Except TraceError (Nat × α)) × RecordReader α :=
  match _h : r.next? with
  | (none, r') => ([], r')
  | (some (.error cause), r') => ([.error cause], r')
  | (some (.ok x), r') =>
    let (rest, last) := readAll r'
    (.ok x :: rest, last)
termination_by Delivery.total r.source
decreasing_by exact total_next?_lt _h

end RecordReader

/-- The records in the contents of a file. -/
def Record.ofBytes (α : Type) [Record α] (bs : Bytes) : List (Except TraceError (Nat × α)) :=
  (RecordReader.readAll (⟨[.bytes bs], 0, false⟩ : RecordReader α)).1

/-! ## Writing -/

/-- The forms of the records written so far. -/
structure RecordWriter where
  bytes : Array UInt8 := #[]
  written : Nat := 0
  deriving Inhabited

namespace RecordWriter

/-- Append a record. -/
def write {α : Type} [Record α] (w : RecordWriter) (r : α) : RecordWriter :=
  ⟨w.bytes ++ Record.encode r, w.written + 1⟩

/-- Append records one after another. -/
def writeAll {α : Type} [Record α] (w : RecordWriter) (rs : List α) : RecordWriter :=
  rs.foldl write w

end RecordWriter

/-- The contents of a file that holds these records. -/
def Record.toBytes {α : Type} [Record α] (rs : List α) : Bytes :=
  (RecordWriter.writeAll {} rs).bytes.toList

end FlowAtlas
