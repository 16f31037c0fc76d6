import FlowAtlas.Sql.Error
import FlowAtlas.Sql.Value

/-!
# Sums

A sum of whole numbers is whole as long as it has a place in 64 bits. From the first number of double
precision on, it is a number of double precision that is kept together with what was lost in rounding
(`RealSum`). A `RunningSum` may also lose numbers again.
-/

set_option autoImplicit false

namespace FlowAtlas
namespace Sql

open Database (Value Encoding)

/-! ## Numbers of double precision -/

/-- A sum of numbers of double precision, and what it is too small by. -/
structure RealSum where
  sum : Float := 0
  error : Float := 0

namespace RealSum

/-- Add a number. -/
def add (s : RealSum) (x : Float) : RealSum :=
  let t := s.sum + x
  let lost := if x.abs < s.sum.abs then (s.sum - t) + x else (x - t) + s.sum
  ⟨t, s.error + lost⟩

/-- From here on, a whole number has more digits than a number of double precision. -/
def wholeLimit : Nat := Nat.pow 2 52

/-- A whole number in two parts, the first of which is all of it unless it has many digits. -/
def parts (n : Int) : Int × Int :=
  let small := if n.natAbs < wholeLimit then 0 else Int.tmod n (Int.pow 2 14)
  (n - small, small)

/-- A sum that is a whole number. -/
def ofWhole (n : Int) : RealSum := ⟨Float.ofInt (parts n).1, Float.ofInt (parts n).2⟩

/-- Add a whole number. One with many digits is added in two parts. -/
def addWhole (s : RealSum) (n : Int) : RealSum :=
  let s := s.add (Float.ofInt (parts n).1)
  if n.natAbs < wholeLimit then s else s.add (Float.ofInt (parts n).2)

/-- The sum. -/
def value (s : RealSum) : Float :=
  if s.error.isNaN || s.error.isInf then s.sum else s.sum + s.error

end RealSum

/-! ## Sums of values -/

/-- A sum to which values may be added, and from which they may be taken again. -/
structure RunningSum where
  /-- How many values there are. -/
  count : Nat := 0
  whole : Int := 0
  /-- The sum from the first number of double precision on. -/
  real : Option RealSum := none
  /-- Whether the whole numbers had no place. -/
  isOver : Bool := false

namespace RunningSum

variable (e : Encoding) (s : RunningSum)

/-- The number that a value counts as. -/
def number (v : Value) : Value := (numberOf? e v).getD v

/-- Add a value. What is nothing does not count. -/
def add (v : Value) : RunningSum :=
  let count := s.count + (if number e v = .null then 0 else 1)
  let s := { s with count }
  match number e v, s.real with
  | .null, _ => s
  | .integer n, none =>
    if NumberText.isInt64 (s.whole + n) then { s with whole := s.whole + n }
    else { s with isOver := true, real := some ((RealSum.ofWhole s.whole).addWhole n) }
  | .integer n, some r => { s with real := some (r.addWhole n) }
  | v, none => { s with real := some ((RealSum.ofWhole s.whole).add (realOf e v)) }
  | v, some r => { s with isOver := false, real := some (r.add (realOf e v)) }

/-- Take a value away that was added. -/
def remove (v : Value) : RunningSum :=
  let count := s.count - (if number e v = .null then 0 else 1)
  let s := { s with count }
  match number e v, s.real with
  | .null, _ => s
  | .integer n, none =>
    if NumberText.isInt64 (s.whole - n) then { s with whole := s.whole - n }
    else { s with isOver := true, real := some {} }
  | .integer n, some r =>
    { s with real := some (if n = -Int.pow 2 63 then (r.addWhole (Int.pow 2 63 - 1)).addWhole 1
        else r.addWhole (-n)) }
  | v, none => { s with whole := s.whole - wholeOf e v }
  | v, some r => { s with real := some (r.add (-realOf e v)) }

/-- The sum of values. -/
def ofValues (vs : List Value) : RunningSum := vs.foldl (add e) {}

/-- The sum as a number of double precision. -/
def total : Float := s.real.elim (Float.ofInt s.whole) (·.value)

/-- The sum, if there are any values. -/
def value : Except SqlError Value :=
  if s.count = 0 then .ok .null
  else
    match s.real with
    | none => .ok (.integer s.whole)
    | some r => if s.isOver then .error .overflow else .ok (realValue r.value)

/-- The mean of the values, if there are any. -/
def mean : Value := if s.count = 0 then .null else realValue (s.total / Float.ofNat s.count)

/-- What a function tells of the values, if it is one of their sum. -/
def tell? (f : String) : Option (Except SqlError Value) :=
  match f with
  | "sum" => some s.value
  | "total" => some (.ok (realValue s.total))
  | "avg" => some (.ok s.mean)
  | _ => none

end RunningSum
end Sql
end FlowAtlas
