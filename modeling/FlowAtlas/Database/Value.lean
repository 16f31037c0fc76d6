import FlowAtlas.Database.Number

/-!
# Values and records

A row is stored as a record: the length of a header, a code for each value that gives its type and
width, and then the values. `Record.encode` writes a record in the narrowest codes, and
`Record.decode?` reads any.
-/

set_option autoImplicit false

namespace FlowAtlas
namespace Database

/-! ## Values -/

/-- A value in a row. -/
inductive Value
  | null
  | integer (n : Int)
  /-- A number of double precision, by its bits. -/
  | real (bits : UInt64)
  /-- A text, in the encoding of the database. -/
  | text (bytes : Bytes)
  | blob (bytes : Bytes)
  deriving DecidableEq, Repr, Inhabited

namespace Value

/-- The widths of stored integers, by their codes from 1 on. -/
def integerWidths : List Nat := [1, 2, 3, 4, 6, 8]

/-- Whether a whole number has a place in so many bytes. -/
def fits (n : Int) (width : Nat) : Bool :=
  -Int.pow 2 (8 * width - 1) ≤ n && n < Int.pow 2 (8 * width - 1)

/-- The code and the bytes of a value. -/
def encode : Value → Nat × Bytes
  | null => (0, [])
  | integer 0 => (8, [])
  | integer 1 => (9, [])
  | integer n =>
    let code := (integerWidths.findIdx? (fits n)).getD 5
    let width := integerWidths.getD code 8
    (code + 1, bigEndian width (unsigned width n))
  | real bits => (7, bigEndian 8 bits.toNat)
  | text bytes => (13 + 2 * bytes.length, bytes)
  | blob bytes => (12 + 2 * bytes.length, bytes)

/-- How many bytes the value behind a code fills. -/
def width (code : Nat) : Nat :=
  if code = 0 then 0
  else if code ≤ 6 then integerWidths.getD (code - 1) 0
  else if code = 7 then 8
  else (code - 12) / 2

/-- The value of a code in its bytes. -/
def decode (code : Nat) (bs : Bytes) : Value :=
  if code = 0 then null
  else if code ≤ 6 then integer (signed (width code) (ofBigEndian bs))
  else if code = 7 then real (UInt64.ofNat (ofBigEndian bs))
  else if code = 8 then integer 0
  else if code = 9 then integer 1
  else if code < 12 then null
  else if code % 2 = 0 then blob bs
  else text bs

end Value

/-! ## Records -/

namespace Record

/-- The length of a header that holds so many bytes beside the length itself. -/
def headerSize (codes : Nat) : Nat := if codes ≤ 126 then codes + 1 else codes + 2

/-- Write a record. -/
def encode (values : List Value) : Bytes :=
  let parts := values.map Value.encode
  let codes := parts.flatMap fun (code, _) => Varint.encode code
  Varint.encode (headerSize codes.length) ++ codes ++ parts.flatMap (·.2)

/-- Read the values behind the codes from place `i` of the header to its end, the first of them from
place `j` on. -/
def decodeFrom (bytes : Array UInt8) (header : Nat) : (fuel i j : Nat) → Option (List Value)
  | 0, _, _ => some []
  | fuel + 1, i, j =>
    if header ≤ i then some []
    else
      let (code, i) := Varint.decode (fun k => (bytes.getD k 0).toNat) i
      let stop := j + Value.width code
      if header < i || bytes.size < stop then none
      else
        let v := Value.decode code (bytes.extract j stop).toList
        (decodeFrom bytes header fuel i stop).map (v :: ·)

/-- Read a record. -/
def decode? (bs : Bytes) : Option (List Value) :=
  let bytes := bs.toArray
  let (header, i) := Varint.decode (fun k => (bytes.getD k 0).toNat) 0
  if bytes.size < header then none else decodeFrom bytes header bytes.size i header

end Record
end Database
end FlowAtlas
