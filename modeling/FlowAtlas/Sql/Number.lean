import FlowAtlas.Sql.LongReal
import FlowAtlas.Text.Numeral

/-!
# Numbers in texts

`NumberText.ofChars` reads the number at the start of a text: blanks, a sign, digits, a fraction and
an exponent. `RealForm.text` writes a number of double precision in one of several forms, of which
`realText` takes the one with fifteen significant digits.
-/

set_option autoImplicit false

namespace FlowAtlas
namespace Sql

/-! ## Reading -/

/-- The number at the start of a text. -/
structure NumberText where
  isNegative : Bool
  /-- The digits before a point. -/
  whole : List Char
  /-- The digits behind a point. -/
  fraction : List Char
  exponent : Int
  /-- Whether there is a point or an exponent. -/
  isReal : Bool
  /-- Whether an exponent has digits, if there is one. -/
  isSound : Bool
  /-- Whether nothing but blanks stands behind the digits of a whole number. -/
  isWholeAll : Bool
  /-- Whether nothing but blanks stands behind the number. -/
  isAll : Bool
  deriving DecidableEq, Repr, Inhabited

namespace NumberText

/-- Whether a character may stand around a number. -/
def isBlank (c : Char) : Bool := c = ' ' || (9 ≤ c.toNat && c.toNat ≤ 13)

/-- The number that digits write. -/
def ofDigits (cs : List Char) : Nat := cs.foldl (fun n c => 10 * n + (c.toNat - '0'.toNat)) 0

/-- The sign at the start, and what stands behind it. -/
def signOf : List Char → Bool × List Char
  | '-' :: rest => (true, rest)
  | '+' :: rest => (false, rest)
  | cs => (false, cs)

/-- From here on, exponents make no difference. -/
def exponentLimit : Nat := 10000

/-- The exponent at the start, whether it has digits, and what stands behind it. -/
def exponentOf (cs : List Char) : Int × Bool × List Char :=
  let (isNegative, rest) := signOf cs
  let digits := rest.takeWhile Char.isDigit
  let n := digits.foldl (fun n c => min exponentLimit (10 * n + (c.toNat - '0'.toNat))) 0
  (if isNegative then -n else n, !digits.isEmpty, rest.dropWhile Char.isDigit)

/-- Read the number at the start of a text. -/
def ofChars (cs : List Char) : NumberText :=
  let (isNegative, cs) := signOf (cs.dropWhile isBlank)
  let whole := cs.takeWhile Char.isDigit
  let behind := cs.dropWhile Char.isDigit
  let (fraction, hasPoint, rest) := match behind with
    | '.' :: rest => (rest.takeWhile Char.isDigit, true, rest.dropWhile Char.isDigit)
    | _ => ([], false, behind)
  let (exponent, hasExponent, isSound, rest) := match rest with
    | e :: more =>
      if e = 'e' || e = 'E' then
        let (n, isSound, rest) := exponentOf more
        (n, true, isSound, rest)
      else (0, false, true, rest)
    | [] => (0, false, true, [])
  { isNegative, whole, fraction, exponent, isReal := hasPoint || hasExponent, isSound
    isWholeAll := behind.all isBlank, isAll := rest.all isBlank }

variable (t : NumberText)

/-- Whether there are digits. -/
def hasDigits : Bool := !t.whole.isEmpty || !t.fraction.isEmpty

/-- Whether all of the text is a number. -/
def isNumber : Bool := t.hasDigits && t.isSound && t.isAll

/-- Whether all of the text is a number without point or exponent. -/
def isWhole : Bool := t.isNumber && !t.isReal

/-- The whole number at the start, however large. -/
def wholeValue : Int := if t.isNegative then -ofDigits t.whole else ofDigits t.whole

/-- Whether a whole number has a place in 64 bits. -/
def isInt64 (n : Int) : Bool := -Int.pow 2 63 ≤ n && n < Int.pow 2 63

/-- The nearest whole number of 64 bits. -/
def clamp (n : Int) : Int := max (-Int.pow 2 63) (min n (Int.pow 2 63 - 1))

/-- No digits are taken from here on, since one more might not have a place in 64 bits. -/
def digitLimit : Nat := (Nat.pow 2 64 - 10) / 10

/-- The first digits as a whole number, and the power of ten that it is to be multiplied with. -/
def significand : Nat × Int :=
  let digit := fun (n : Nat) (c : Char) => 10 * n + (c.toNat - '0'.toNat)
  let whole := t.whole.foldl
    (fun (n, p) c => if n < digitLimit then (digit n c, p) else (n, p + 1)) (0, t.exponent)
  t.fraction.foldl (fun (n, p) c => if n < digitLimit then (digit n c, p - 1) else (n, p)) whole

/-- Bring a power of ten as near to zero as 64 bits of the whole number allow, in so many steps. -/
def balanced : (fuel : Nat) → Nat × Int → Nat × Int
  | 0, s => s
  | fuel + 1, (n, p) =>
    if 0 < p && n < (Nat.pow 2 64 - 1) / 10 then balanced fuel (10 * n, p - 1)
    else if p < 0 && n % 10 = 0 then balanced fuel (n / 10, p + 1)
    else (n, p)

/-- The largest number of double precision. -/
def realLimit : LongReal := ⟨Nat.pow 2 53 - 1, 971⟩

/-- The number in double precision. -/
def realValue : Float :=
  let (n, p) := t.significand
  let (n, p) := if n = 0 then (0, 0) else balanced 20 (n, p)
  let x := LongReal.ofNat n
  let x := if p = 0 then ⟨n, 0⟩ else x.timesTenTo p
  let y := if realLimit.isLess x then 1.0 / 0.0 else x.toFloat
  if t.isNegative then -y else y

end NumberText

/-! ## Numbers of double precision -/

/-- The whole number that a number of double precision is without its fraction, as near as 64 bits
allow. -/
def wholeOfReal (x : Float) : Int :=
  if x.isNaN then 0
  else if x.isInf then if x < 0 then -Int.pow 2 63 else Int.pow 2 63 - 1
  else
    let n : Int := (LongReal.ofFloat x).whole
    NumberText.clamp (if x < 0 then -n else n)

/-- How a whole number stands to a number of double precision. -/
def compareWithReal (n : Int) (x : Float) : Ordering :=
  if x.isNaN then .gt
  else if x.isInf then if x < 0 then .gt else .lt
  else
    let ⟨m, e⟩ := LongReal.ofFloat x
    let m : Int := if x < 0 then -m else m
    if 0 ≤ e then compare n (m * Int.pow 2 e.toNat) else compare (n * Int.pow 2 (-e).toNat) m

/-! ## Digits -/

/-- The digits of a positive number, and the place of the point among them. -/
structure Digits where
  /-- The digits, of which the last one is not zero. -/
  digits : List Char
  /-- How many digits stand before the point. -/
  point : Int
  deriving DecidableEq, Repr, Inhabited

namespace Digits

/-- A number between `10 ^ 17` and `10 ^ 19`, and the power of ten that makes a number of it. -/
def scaled (x : LongReal) : LongReal × Int :=
  let ten := LongReal.tenTo
  let down := fun (limit : Int) (k : Int) =>
    LongReal.scaleWhile (fun x => !x.isLess (ten limit)) (ten (-k)) k 40
  let up := fun (limit : Int) (k : Int) =>
    LongReal.scaleWhile (·.isLess (ten limit)) (ten k) (-k) 40
  if x.isLess (ten 19) then up 17 1 (up 7 10 (up (-97) 100 (x, 0)))
  else down 19 1 (down 29 10 (down 119 100 (x, 0)))

/-- One more in the last place of digits, and whether that makes one digit more. -/
def increment (cs : List Char) : List Char × Bool :=
  cs.foldr (fun c (rest, carry) =>
    if !carry then (c :: rest, false)
    else if c = '9' then ('0' :: rest, true)
    else (Char.ofNat (c.toNat + 1) :: rest, false)) ([], true)

/-- The first digits, rounded, a half to the larger number. -/
def firstDigits (d : Digits) (size : Nat) : Digits :=
  let kept := d.digits.take size
  if '5' ≤ d.digits.getD size '0' then
    let (kept, isLonger) := increment kept
    if isLonger then ⟨'1' :: kept, d.point + 1⟩ else ⟨kept, d.point⟩
  else ⟨kept, d.point⟩

/-- The digits without the zeros at their end. -/
def trimmed (d : Digits) : Digits :=
  { d with digits := (d.digits.reverse.dropWhile (· = '0')).reverse }

/-- The digits of a number without its sign, which must be finite. So many digits are kept, at most
a limit; if the count is not positive, it tells how many digits behind the point are kept. -/
def ofFloat (x : Float) (count : Int) (limit : Nat) : Digits :=
  if x == 0 then ⟨['0'], 1⟩
  else
    let (y, power) := scaled (LongReal.ofFloat x)
    let digits := Nat.toDigits 10 y.whole
    let d : Digits := ⟨digits, digits.length + power⟩
    let own := if count ≤ 0 then d.point - count else count
    let (d, own) := if count ≤ 0 && own = 0 && '5' ≤ digits.headD '0'
      then (⟨'0' :: digits, d.point + 1⟩, 1) else (d, own)
    let size := d.digits.length
    if 0 < own && (own < size || limit < size) then (d.firstDigits (min own.toNat limit)).trimmed
    else d.trimmed

end Digits

/-! ## Writing -/

/-- Where digits stand to their point. -/
inductive RealStyle
  /-- So many digits behind the point. -/
  | fixed
  /-- One digit before the point, and an exponent. -/
  | exponent
  /-- With an exponent if it is small or large. -/
  | general
  deriving DecidableEq, Repr, Inhabited

/-- How a number of double precision is written. -/
structure RealForm where
  style : RealStyle
  precision : Nat
  /-- Whether a point is always written, with a digit behind it, and as many digits as are known. -/
  isFull : Bool := false
  /-- Whether a point is always written, and zeros at the end. -/
  isAlternate : Bool := false
  /-- Whether commas stand between groups of three digits. -/
  hasCommas : Bool := false
  /-- The letter before an exponent. -/
  mark : Char := 'e'
  deriving DecidableEq, Repr, Inhabited

namespace RealForm

variable (f : RealForm)

/-- How many digits are asked for, or how many behind the point. -/
def count : Int :=
  match f.style with
  | .fixed => -f.precision
  | .exponent => f.precision + 1
  | .general => max 1 f.precision

/-- No more digits than these are known. -/
def limit : Nat := if f.isFull then 26 else 16

/-- Digits with commas between groups of three, from the right. -/
def grouped (cs : List Char) : List Char :=
  (cs.zipIdx.flatMap fun (c, i) =>
    let left := cs.length - 1 - i
    if left % 3 = 0 && 0 < left then [c, ','] else [c])

/-- An exponent of at least two digits. -/
def exponentText (e : Int) : List Char :=
  let digits := Nat.toDigits 10 e.natAbs
  f.mark :: (if e < 0 then '-' else '+') :: List.replicate (2 - digits.length) '0' ++ digits

/-- The part behind the point, and the point. -/
def fractionText (places : Nat) (trims : Bool) (cs : List Char) : List Char :=
  let cs := cs.take places ++ List.replicate (places - cs.length) '0'
  let kept := if trims then (cs.reverse.dropWhile (· = '0')).reverse else cs
  let hasPoint := 0 < places || f.isAlternate || f.isFull
  if !hasPoint then []
  else if trims && kept.isEmpty then if f.isFull then ['.', '0'] else []
  else '.' :: kept

/-- The text of digits. -/
def digitsText (d : Digits) : List Char :=
  let power := d.point - 1
  let isGeneral := f.style = .general
  let precision : Int := if isGeneral then max 1 f.precision - 1 else f.precision
  let trims := if isGeneral then !f.isAlternate else f.isFull
  let hasExponent := f.style = .exponent || isGeneral && (power < -4 || precision < power)
  if hasExponent then
    d.digits.headD '0' :: f.fractionText precision.toNat trims d.digits.tail ++
      f.exponentText power
  else
    let places := (if isGeneral then precision - power else precision).toNat
    if power < 0 then
      let zeros := List.replicate (-d.point).toNat '0'
      '0' :: f.fractionText places trims (zeros ++ d.digits)
    else
      let n := power.toNat + 1
      let whole := d.digits.take n ++ List.replicate (n - d.digits.length) '0'
      (if f.hasCommas then grouped whole else whole) ++
        f.fractionText places trims (d.digits.drop n)

/-- The text of a finite number without its sign. -/
def text (x : Float) : List Char := f.digitsText (.ofFloat x.abs f.count f.limit)

end RealForm

/-- How numbers of double precision are written as texts. -/
def RealForm.plain : RealForm := { style := .general, precision := 15, isFull := true }

/-- The text of a number of double precision. -/
def realText (x : Float) : String :=
  let sign := if x < 0 then "-" else ""
  if x.isNaN then ""
  else if x.isInf then sign ++ "Inf"
  else sign ++ String.ofList (RealForm.plain.text x)

end Sql
end FlowAtlas
