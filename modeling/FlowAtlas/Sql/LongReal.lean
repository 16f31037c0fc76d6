/-!
# Numbers of sixty-four significant bits

Between decimal digits and double precision, numbers are kept to sixty-four significant bits
(`LongReal`), so that a few products with powers of ten lose next to nothing. Each product is rounded
to the nearest such number, and to the even one of two that are as near.
-/

set_option autoImplicit false

namespace FlowAtlas
namespace Sql

/-- A number that is not negative, as a whole number and a power of two. -/
structure LongReal where
  mantissa : Nat
  exponent : Int
  deriving DecidableEq, Repr, Inhabited

namespace LongReal

/-! ## Rounding -/

/-- A whole number without so many of its last bits, rounded to the nearest one, a half to the even
one. -/
def withoutBits (bits m : Nat) : Nat :=
  let q := m / Nat.pow 2 bits
  let rest := 2 * (m % Nat.pow 2 bits)
  if Nat.pow 2 bits < rest || rest = Nat.pow 2 bits && q % 2 = 1 then q + 1 else q

/-- How many significant bits there are. -/
def width : Nat := 64

/-- The nearest number of sixty-four significant bits. -/
def rounded (m : Nat) (exponent : Int) : LongReal :=
  let extra := m.log2 + 1 - width
  ⟨withoutBits extra m, exponent + extra⟩

/-- The product of two numbers. -/
def mul (x y : LongReal) : LongReal := rounded (x.mantissa * y.mantissa) (x.exponent + y.exponent)

/-- A whole number. -/
def ofNat (n : Nat) : LongReal := rounded n 0

/-- A power of ten. One with a negative exponent is the nearest number to a quotient, of which two
bits more are calculated than are kept, and one that tells whether more would follow. -/
def tenTo (k : Int) : LongReal :=
  if 0 ≤ k then ofNat (Nat.pow 10 k.toNat)
  else
    let d := Nat.pow 10 (-k).toNat
    let bits := d.log2 + width + 2
    let q := Nat.pow 2 bits / d
    rounded (2 * q + if Nat.pow 2 bits % d = 0 then 0 else 1) (-(bits : Int) - 1)

/-- How two numbers stand to each other. -/
def compare (x y : LongReal) : Ordering :=
  let low := min x.exponent y.exponent
  Ord.compare (x.mantissa * Nat.pow 2 (x.exponent - low).toNat)
    (y.mantissa * Nat.pow 2 (y.exponent - low).toNat)

/-- Whether a number is less than another one. -/
def isLess (x y : LongReal) : Bool := x.compare y = .lt

/-- The whole number without the fraction. -/
def whole (x : LongReal) : Nat :=
  if 0 ≤ x.exponent then x.mantissa * Nat.pow 2 x.exponent.toNat
  else x.mantissa / Nat.pow 2 (-x.exponent).toNat

/-! ## Double precision -/

/-- The bits of infinity. -/
def infinite : Nat := 2047 * Nat.pow 2 52

/-- The nearest number of double precision. -/
def toFloat (x : LongReal) : Float :=
  if x.mantissa = 0 then 0
  else
    let extra := max ((x.mantissa.log2 : Int) - 52) (-1074 - x.exponent)
    let q := withoutBits extra.toNat (x.mantissa * Nat.pow 2 (-extra).toNat)
    let bits := (x.exponent + extra + 1074).toNat * Nat.pow 2 52 + q
    Float.ofBits (UInt64.ofNat (min infinite bits))

/-- A number of double precision without its sign. It must be finite. -/
def ofFloat (x : Float) : LongReal :=
  let bits := x.toBits.toNat
  let e : Nat := bits / Nat.pow 2 52 % 2048
  let m : Nat := bits % Nat.pow 2 52
  if e = 0 then ⟨m, -1074⟩ else ⟨m + Nat.pow 2 52, e - 1075⟩

/-! ## Powers of ten -/

/-- Multiply a number as long as it is too far off, at most so often, and count the steps. -/
def scaleWhile (isFar : LongReal → Bool) (factor : LongReal) (step : Int) :
    (fuel : Nat) → LongReal × Int → LongReal × Int
  | 0, s => s
  | fuel + 1, (x, n) =>
    if isFar x then scaleWhile isFar factor step fuel (x.mul factor, n + step) else (x, n)

/-- The powers of ten by which a number is multiplied, the largest first. -/
def strides : List Nat := [100, 10, 1]

/-- A number times a power of ten, in as few products as there are hundreds, tens and ones in the
exponent. -/
def timesTenTo (x : LongReal) (k : Int) : LongReal :=
  let step := fun ((x, n) : LongReal × Nat) (stride : Nat) =>
    let factor := tenTo (if k < 0 then -stride else stride)
    ((List.range (n / stride)).foldl (fun x _ => x.mul factor) x, n % stride)
  (strides.foldl step (x, k.natAbs)).1

end LongReal
end Sql
end FlowAtlas
