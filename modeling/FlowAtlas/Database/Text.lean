import FlowAtlas.Database.Basic
import FlowAtlas.Database.Value
import FlowAtlas.Text.Lossy

/-!
# Texts in a database

A database keeps all its texts in one encoding, which the header names: UTF-8, or UTF-16 with either
byte first.
-/

set_option autoImplicit false

namespace FlowAtlas
namespace Database

/-- The encoding of texts. -/
inductive Encoding
  | utf8
  | utf16 (isLowFirst : Bool)
  deriving DecidableEq, Repr

namespace Encoding

/-- The encoding with a number. -/
def ofCode (n : Nat) : Encoding :=
  match n % 4 with
  | 2 => utf16 true
  | 3 => utf16 false
  | _ => utf8

/-- The units of a text of UTF-16. A byte that is left over counts for nothing. -/
def units (isLowFirst : Bool) : Bytes → List Nat
  | a :: b :: rest =>
    (if isLowFirst then a.toNat + 256 * b.toNat else 256 * a.toNat + b.toNat) ::
      units isLowFirst rest
  | _ => []

/-- The UTF-8 form of a number, in as few bytes as can be. -/
def utf8Bytes (c : Nat) : Bytes :=
  let tail := fun shift => UInt8.ofNat (0x80 + c / shift % 64)
  if c < 0x80 then [UInt8.ofNat c]
  else if c < 0x800 then [UInt8.ofNat (0xc0 + c / 64), tail 1]
  else if c < 0x10000 then [UInt8.ofNat (0xe0 + c / 4096), tail 64, tail 1]
  else [UInt8.ofNat (0xf0 + c / 262144 % 8), tail 4096, tail 64, tail 1]

/-- The UTF-8 form of units. Any two units count as a pair if the first is half of one. -/
def ofUnits : List Nat → Bytes
  | c :: d :: rest =>
    if 0xd800 ≤ c ∧ c < 0xe000 then
      utf8Bytes (d % 1024 + c % 64 * 1024 + (c / 64 % 16 + 1) * 65536) ++ ofUnits rest
    else utf8Bytes c ++ ofUnits (d :: rest)
  | c :: rest => utf8Bytes c ++ ofUnits rest
  | [] => []

/-- The UTF-8 form of a stored text. -/
def decode (e : Encoding) (bs : Bytes) : Bytes :=
  match e with
  | utf8 => bs
  | utf16 isLowFirst => ofUnits (units isLowFirst bs)

/-- The stored form of a text. -/
def encode (e : Encoding) (s : String) : Bytes :=
  match e with
  | utf8 => Bytes.ofText s
  | utf16 isLowFirst =>
    let unit := fun n => if isLowFirst then Bytes.ofNat 2 n else bigEndian 2 n
    s.toList.flatMap fun c =>
      if c.toNat < 0x10000 then unit c.toNat
      else
        let n := c.toNat - 0x10000
        unit (0xd800 + n / 1024) ++ unit (0xdc00 + n % 1024)

end Encoding

/-- The encoding of the texts of a database. -/
def encoding (d : Database) : Encoding := .ofCode (d.header .encoding)

/-- A text as a value. -/
def textValue (d : Database) (s : String) : Value := .text (d.encoding.encode s)

/-- The text of a value, if it is one. What is no text in a text is replaced. -/
def textOf? (d : Database) (v : Value) : Option String :=
  match v with
  | .text bs => some (Text.lossy (d.encoding.decode bs))
  | _ => none

end Database
end FlowAtlas
