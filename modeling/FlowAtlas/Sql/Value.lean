import FlowAtlas.Database.Text
import FlowAtlas.Sql.Expr
import FlowAtlas.Sql.Number

/-!
# Values in formulas

How values are compared, changed to another type and calculated with. Texts stand in the encoding
of their database, as they do in rows.
-/

set_option autoImplicit false

namespace FlowAtlas
namespace Sql

open Database (Value Encoding bigEndian)

/-! ## Texts -/

namespace Texts

variable (e : Encoding)

/-- A text as a value. -/
def ofString (s : String) : Value := .text (e.encode s)

/-- A text that is given in UTF-8. -/
def ofBytes (bs : Bytes) : Value :=
  match e with
  | .utf8 => .text bs
  | _ => ofString e (Text.lossy bs)

/-- The bytes of a value as a text, in UTF-8. -/
def bytes : Value → Bytes
  | .null => []
  | .integer n => Bytes.ofText (Numeral.signedDecimal n)
  | .real bits => Bytes.ofText (realText (Float.ofBits bits))
  | .text bs | .blob bs => e.decode bs

/-- The bytes of a value as they are stored, or of a number as a text. -/
def raw : Value → Bytes
  | .text bs | .blob bs => bs
  | v => bytes e v

/-- A value as a text. What is no text is replaced. -/
def string (v : Value) : String := Text.lossy (bytes e v)

/-- The characters of a value as a text up to the first one that is NUL. -/
def start (v : Value) : List Char := (string e v).toList.takeWhile (· ≠ '\x00')

/-- The characters of a value that may be part of a number. -/
def characters (v : Value) : List Char := (bytes e v).map fun b => Char.ofNat b.toNat

/-- The number at the start of a value. -/
def number (v : Value) : NumberText := .ofChars (characters e v)

end Texts

/-! ## Types -/

/-- A number of double precision as a value. What is no number is nothing. -/
def realValue (x : Float) : Value := if x.isNaN then .null else .real x.toBits

/-- A number of double precision, as a whole number if it is one. -/
def wholeIfExact (x : Float) : Value :=
  let n := wholeOfReal x
  if Float.ofInt n == x && -Int.pow 2 63 < n && n < Int.pow 2 63 - 1 then .integer n else realValue x

/-- The number that is all of a text, if there is one. -/
def numberOf? (e : Encoding) (v : Value) : Option Value :=
  match v with
  | .text _ =>
    let t := Texts.number e v
    if !t.isNumber then none
    else if t.isWhole && NumberText.isInt64 t.wholeValue then some (.integer t.wholeValue)
    else some (realValue t.realValue)
  | _ => none

/-- The whole number that a value is cut to. -/
def wholeOf (e : Encoding) : Value → Int
  | .null => 0
  | .integer n => n
  | .real bits => wholeOfReal (Float.ofBits bits)
  | v => NumberText.clamp (Texts.number e v).wholeValue

/-- The number of double precision at the start of a value. -/
def realOf (e : Encoding) : Value → Float
  | .null => 0
  | .integer n => Float.ofInt n
  | .real bits => Float.ofBits bits
  | v => (Texts.number e v).realValue

/-- The number at the start of a value. -/
def numberAtStart (e : Encoding) (v : Value) : Value :=
  match v with
  | .null | .integer _ | .real _ => v
  | _ =>
    let t := Texts.number e v
    if t.isNumber && t.isReal then realValue t.realValue
    else if t.hasDigits && (t.isReal && t.isSound || !t.fraction.isEmpty) then realValue t.realValue
    else if NumberText.isInt64 t.wholeValue then .integer t.wholeValue
    else realValue t.realValue

/-- Change a value as a column of an affinity does. -/
def Affinity.apply (e : Encoding) (a : Affinity) (v : Value) : Value :=
  match a, v with
  | .text, .integer _ | .text, .real _ => Texts.ofString e (Texts.string e v)
  | .numeric, .real bits | .integer, .real bits => wholeIfExact (Float.ofBits bits)
  | .numeric, .text _ | .integer, .text _ =>
    match numberOf? e v with
    | some (.real bits) => wholeIfExact (Float.ofBits bits)
    | found => found.getD v
  | .real, .text _ =>
    match numberOf? e v with
    | some (.integer n) => realValue (Float.ofInt n)
    | found => found.getD v
  | .real, .integer n => realValue (Float.ofInt n)
  | _, _ => v

/-- No whole number from here on is stored in place of one of double precision. -/
def storedWholeLimit : Nat := Nat.pow 2 47

/-- What is stored of a value in a column: a small whole number in place of one of double
precision. -/
def Affinity.stored (a : Affinity) (v : Value) : Value :=
  match a, v with
  | .real, .real bits =>
    match wholeIfExact (Float.ofBits bits) with
    | .integer n => if n.natAbs < storedWholeLimit then .integer n else v
    | _ => v
  | _, v => v

/-- What a stored value stands for in a column. -/
def Affinity.read (a : Affinity) (v : Value) : Value :=
  match a, v with
  | .real, .integer n => realValue (Float.ofInt n)
  | _, v => v

/-- Change a value to a type of some affinity, whatever it takes. -/
def Affinity.cast (e : Encoding) (a : Affinity) (v : Value) : Value :=
  match a, v with
  | _, .null => .null
  | .text, .text _ => v
  | .text, .blob bs => .text bs
  | .text, _ => Texts.ofString e (Texts.string e v)
  | .blob, .blob _ => v
  | .blob, .text bs => .blob bs
  | .blob, _ => .blob (e.encode (Texts.string e v))
  | .integer, _ => .integer (wholeOf e v)
  | .real, _ => realValue (realOf e v)
  | .numeric, .integer _ | .numeric, .real _ => v
  | .numeric, _ =>
    match numberAtStart e v with
    | .real bits => wholeIfExact (Float.ofBits bits)
    | found => found

/-- The name of the type of a value. -/
def typeName : Value → String
  | .null => "null"
  | .integer _ => "integer"
  | .real _ => "real"
  | .text _ => "text"
  | .blob _ => "blob"

/-! ## Comparing -/

/-- The place of the type of a value in the order of types. -/
def rank : Value → Nat
  | .null => 0
  | .integer _ | .real _ => 1
  | .text _ => 2
  | .blob _ => 3

/-- How two numbers stand to each other, where one may have a fraction. -/
def compareNumbers (a b : Value) : Ordering :=
  match a, b with
  | .integer m, .integer n => compare m n
  | .integer m, .real y => compareWithReal m (Float.ofBits y)
  | .real x, .integer n => (compareWithReal n (Float.ofBits x)).swap
  | .real x, .real y =>
    let x := Float.ofBits x
    let y := Float.ofBits y
    if x < y then .lt else if y < x then .gt else .eq
  | _, _ => .eq

/-- A Latin letter in lower case. -/
def lowerByte (b : UInt8) : UInt8 := if 65 ≤ b && b ≤ 90 then b + 32 else b

/-- A Latin letter in upper case. -/
def upperByte (b : UInt8) : UInt8 := if 97 ≤ b && b ≤ 122 then b - 32 else b

/-- How two texts stand to each other. -/
def Collation.compareTexts (c : Collation) (e : Encoding) (x y : Bytes) : Ordering :=
  match c with
  | .caseless => compare ((e.decode x).map lowerByte) ((e.decode y).map lowerByte)
  | .trimmed =>
    let trim := fun bs : Bytes => ((e.decode bs).reverse.dropWhile (· = 32)).reverse
    compare (trim x) (trim y)
  | _ => compare x y

/-- How two values stand to each other. -/
def Collation.compare (c : Collation) (e : Encoding) (a b : Value) : Ordering :=
  match a, b with
  | .text x, .text y => c.compareTexts e x y
  | .blob x, .blob y => Ord.compare x y
  | a, b => if rank a = rank b then compareNumbers a b else Ord.compare (rank a) (rank b)

/-- Change two values to be compared as the affinities of their formulas ask for. -/
def forComparison (e : Encoding) (a b : Option Affinity) (x y : Value) : Value × Value :=
  let isNumeric := fun o : Option Affinity => o.any (·.isNumeric)
  let toNumber := fun v => (numberOf? e v).getD v
  let toText := fun v => Affinity.apply e .text v
  if isNumeric a || isNumeric b then (toNumber x, toNumber y)
  else if (a = some .text && b.isNone) || (b = some .text && a.isNone) then (toText x, toText y)
  else (x, y)

/-! ## Truth -/

/-- Whether a value counts as true, if it counts at all. -/
def truth? (e : Encoding) : Value → Option Bool
  | .null => none
  | .integer n => some (n ≠ 0)
  | v => some (realOf e v != 0)

/-- A truth value as a value. -/
def ofTruth (b : Bool) : Value := .integer (if b then 1 else 0)

/-- A truth value that may not count as a value. -/
def ofTruth? (b : Option Bool) : Value := b.elim .null ofTruth

/-! ## Calculating -/

/-- A whole number, or one of double precision if it has no place in 64 bits. -/
def wholeOrReal (n : Int) (x : Float) : Value :=
  if NumberText.isInt64 n then .integer n else realValue x

/-- Shift the bits of a whole number, to the right if the width is negative. -/
def shift (n width : Int) : Int :=
  if 0 ≤ width then
    if 64 ≤ width then 0 else Int.bmod (n * Int.pow 2 width.toNat) (Nat.pow 2 64)
  else if width ≤ -64 then if n < 0 then -1 else 0
  else Int.fdiv n (Int.pow 2 (-width).toNat)

/-- A whole number of 64 bits as its bits. -/
def bitsOf (n : Int) : Nat := (n % Int.pow 2 64).toNat

/-- The whole number of 64 bits. -/
def ofBits (n : Nat) : Int := Int.bmod n (Nat.pow 2 64)

/-- Calculate with two values that are there. -/
def calculate (e : Encoding) (op : BinaryOp) (x y : Value) : Value :=
  let a := wholeOf e x
  let b := wholeOf e y
  let r := realOf e x
  let s := realOf e y
  let areWhole := match numberAtStart e x, numberAtStart e y with
    | .integer _, .integer _ => true
    | _, _ => false
  match op with
  | .plus => if areWhole then wholeOrReal (a + b) (r + s) else realValue (r + s)
  | .minus => if areWhole then wholeOrReal (a - b) (r - s) else realValue (r - s)
  | .times => if areWhole then wholeOrReal (a * b) (r * s) else realValue (r * s)
  | .divide =>
    if areWhole then if b = 0 then .null else wholeOrReal (Int.tdiv a b) (r / s)
    else if s == 0 then .null else realValue (r / s)
  | .remainder =>
    if b = 0 then .null
    else
      let m := Int.tmod a b
      if areWhole then .integer m else realValue (Float.ofInt m)
  | .bitAnd => .integer (ofBits (bitsOf a &&& bitsOf b))
  | .bitOr => .integer (ofBits (bitsOf a ||| bitsOf b))
  | .shiftLeft => .integer (shift a b)
  | .shiftRight => .integer (shift a (-b))
  | _ => .null

/-- Put two values that are there behind each other. -/
def concatenate (e : Encoding) (x y : Value) : Value :=
  Texts.ofBytes e (Texts.bytes e x ++ Texts.bytes e y)

/-- The negative of a value. -/
def negate (e : Encoding) (v : Value) : Value :=
  match numberAtStart e v with
  | .null => .null
  | .integer n => wholeOrReal (-n) (-Float.ofInt n)
  | v => realValue (0 - realOf e v)

end Sql
end FlowAtlas
