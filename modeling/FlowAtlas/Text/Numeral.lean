/-!
# Numbers in decimal and hexadecimal

How numbers are written in names, messages and logs, and how they are read back:

* `Numeral.decimal` and `Numeral.hex` write a number without leading zeros, the latter in lower
  case behind `0x`;
* `Numeral.ofDecimal?` and `Numeral.ofHex?` read a run of ASCII digits, and answer `none` when a
  character is no digit or the run is empty.
-/

set_option autoImplicit false

namespace FlowAtlas
namespace Numeral

/-- The digits of `n` in base ten. -/
def decimal (n : Nat) : String :=
  String.ofList (Nat.toDigits 10 n)

/-- A whole number in decimal digits, after a sign if it is negative. -/
def signedDecimal (n : Int) : String := (if n < 0 then "-" else "") ++ decimal n.natAbs

/-- `0x` and the lower-case digits of `n` in base sixteen. -/
def hex (n : Nat) : String :=
  "0x" ++ String.ofList (Nat.toDigits 16 n)

/-- The number of values below which a 64-bit word counts. -/
def wordLimit : Nat := Nat.pow 2 64

/-- The value of a digit in base sixteen, of either case. -/
def hexDigit? (c : Char) : Option Nat :=
  if '0' ≤ c ∧ c ≤ '9' then some (c.toNat - '0'.toNat)
  else if 'a' ≤ c ∧ c ≤ 'f' then some (c.toNat - 'a'.toNat + 10)
  else if 'A' ≤ c ∧ c ≤ 'F' then some (c.toNat - 'A'.toNat + 10)
  else none

/-- The value of a digit in base ten. -/
def decimalDigit? (c : Char) : Option Nat :=
  if '0' ≤ c ∧ c ≤ '9' then some (c.toNat - '0'.toNat) else none

/-- The number that a run of digits writes in `base`, the leading digit first. -/
def ofDigits? (base : Nat) (digit? : Char → Option Nat) : List Char → Option Nat
  | [] => none
  | cs => cs.foldlM (fun n c => (digit? c).map (n * base + ·)) 0

/-- Read a run of decimal digits. -/
def ofDecimal? (cs : List Char) : Option Nat :=
  ofDigits? 10 decimalDigit? cs

/-- Read a run of hexadecimal digits. -/
def ofHex? (cs : List Char) : Option Nat :=
  ofDigits? 16 hexDigit? cs

/-- Keep a number that fits a 64-bit word. -/
def word? (n : Nat) : Option UInt64 :=
  if n < wordLimit then some (UInt64.ofNat n) else none

end Numeral
end FlowAtlas
