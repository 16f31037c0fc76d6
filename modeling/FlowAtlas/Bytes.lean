/-!
# Byte strings

The contents of files, and numbers in them with the least significant byte first.
-/

set_option autoImplicit false

namespace FlowAtlas

/-- The contents of a file or of a part of it. -/
abbrev Bytes := List UInt8

namespace Bytes

/-- The `width` low bytes of a number, the least significant first. -/
def ofNat : (width : Nat) → (n : Nat) → Bytes
  | 0, _ => []
  | width + 1, n => UInt8.ofNat n :: ofNat width (n / 256)

/-- The number that bytes write, the least significant first. -/
def toNat : Bytes → Nat
  | [] => 0
  | b :: rest => b.toNat + 256 * toNat rest

/-- The eight bytes of a word. -/
def ofWord (w : UInt64) : Bytes := ofNat 8 w.toNat

/-- The word in the eight bytes from place `8 * i` on. -/
def word (bs : Bytes) (i : Nat) : UInt64 := UInt64.ofNat (toNat ((bs.drop (8 * i)).take 8))

/-- The UTF-8 form of a text. -/
def ofText (s : String) : Bytes := s.toUTF8.toList

/-- The text of which these bytes are the UTF-8 form. -/
def text? (bs : Bytes) : Option String := String.fromUTF8? ⟨bs.toArray⟩

/-- Two lower-case digits of base sixteen for each byte. -/
def hex (bs : Bytes) : String :=
  String.ofList (bs.flatMap fun b =>
    [Nat.digitChar (b.toNat / 16), Nat.digitChar (b.toNat % 16)])

/-- The pieces between line feeds. The piece after the last line feed counts unless it is empty. -/
def lines (bs : Bytes) : List Bytes :=
  let pieces := bs.splitOn 0x0a
  if pieces.getLast? = some [] then pieces.dropLast else pieces

end Bytes
end FlowAtlas
