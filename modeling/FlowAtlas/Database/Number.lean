import FlowAtlas.Bytes

/-!
# Numbers in a database file

Numbers of a fixed width stand with the most significant byte first. A number of variable length
fills groups of seven bits, the most significant first, each but the last marked by its high bit;
one that needs more than eight groups takes nine bytes, the last of which is whole.
-/

set_option autoImplicit false

namespace FlowAtlas
namespace Database

/-! ## Fixed width -/

/-- The `width` low bytes of a number, the most significant first. -/
def bigEndian (width n : Nat) : Bytes := (Bytes.ofNat width n).reverse

/-- The number that bytes write, the most significant first. -/
def ofBigEndian (bs : Bytes) : Nat := Bytes.toNat bs.reverse

/-- The number in the four bytes from a place on. -/
def wordAt (bs : Bytes) (place : Nat) : Nat := ofBigEndian ((bs.drop place).take 4)

/-- The whole number of `width` bytes in two's complement. -/
def signed (width n : Nat) : Int :=
  if n < Nat.pow 2 (8 * width - 1) then n else (n : Int) - Int.pow 2 (8 * width)

/-- The two's complement of a whole number in `width` bytes. -/
def unsigned (width : Nat) (n : Int) : Nat := (n % (Int.pow 2 (8 * width) : Int)).toNat

/-! ## Variable length -/

namespace Varint

/-- How many groups of seven bits a number needs, of at most eight. -/
def groups (n : Nat) : Nat :=
  ((List.range 8).find? fun k => n < Nat.pow 2 (7 * (k + 1))).elim 8 (· + 1)

/-- The `k` low groups of a number, each marked. -/
def marked : (k n : Nat) → Bytes
  | 0, _ => []
  | k + 1, n => marked k (n / 128) ++ [UInt8.ofNat (n % 128 + 128)]

/-- Write a number below `2 ^ 64`. -/
def encode (n : Nat) : Bytes :=
  if n < Nat.pow 2 56 then marked (groups n - 1) (n / 128) ++ [UInt8.ofNat (n % 128)]
  else marked 8 (n / 256) ++ [UInt8.ofNat (n % 256)]

/-- Go on reading with at most `k` more marked groups behind a number. -/
def decodeFrom (byteAt : Nat → Nat) : (k acc i : Nat) → Nat × Nat
  | 0, acc, i => (acc * 256 + byteAt i, i + 1)
  | k + 1, acc, i =>
    let b := byteAt i
    if b < 128 then (acc * 128 + b, i + 1) else decodeFrom byteAt k (acc * 128 + (b - 128)) (i + 1)

/-- The number at a place, and the place behind it. -/
def decode (byteAt : Nat → Nat) (i : Nat) : Nat × Nat := decodeFrom byteAt 8 0 i

end Varint
end Database
end FlowAtlas
