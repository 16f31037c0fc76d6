import FlowAtlas.Sql.Format
import FlowAtlas.Sql.Instant.Change

/-!
# Texts of instants

An instant is told as a date, as a time of day, as both, as a number, or in a form in which `%` and a
letter stand for a part of it (`Instant.formed?`). `Instant.ofValues?` makes an instant of a value and
the changes behind it.
-/

set_option autoImplicit false

namespace FlowAtlas
namespace Sql
namespace Instant

open Database (Value Encoding)

/-! ## Numbers -/

/-- A whole number of at least so many characters. -/
def padded (pad : Char) (width : Nat) (n : Int) : String :=
  let digits := Nat.toDigits 10 n.natAbs
  let sign := if n < 0 then ['-'] else []
  let fill := List.replicate (width - digits.length - sign.length) pad
  String.ofList (if pad = '0' then sign ++ fill ++ digits else fill ++ sign ++ digits)

/-- A whole number with zeros in front. -/
def zeros (width : Nat) (n : Int) : String := padded '0' width n

/-- A number with so many digits behind the point and zeros in front. -/
def places (width precision : Nat) (x : Float) : String :=
  let d : Format.Direction := { fillsZeros := true, width, precision := some precision, letter := 'f' }
  String.ofList (d.real .fixed x)

/-! ## Dates and times of day -/

variable (x : Instant)

/-- The seconds of the time of day. -/
def secondText : String :=
  let s := x.clock.second
  if x.hasFraction then
    let n := wholeOfReal (1000.0 * s + 0.5)
    zeros 2 (n / 1000) ++ "." ++ zeros 3 (n % 1000)
  else zeros 2 (wholeOfReal s)

/-- The time of day. -/
def timeText : String :=
  zeros 2 x.clock.hour ++ ":" ++ zeros 2 x.clock.minute ++ ":" ++ x.secondText

/-- The date. -/
def dateText : String :=
  (if x.day.year < 0 then "-" else "") ++ zeros 4 x.day.year.natAbs ++ "-" ++
    zeros 2 x.day.month ++ "-" ++ zeros 2 x.day.day

/-- The days from the start of the Julian days. -/
def julianDay : Float := Float.ofInt x.milliseconds / 86400000.0

/-- The seconds from the start of the year 1970. -/
def seconds : Int := x.milliseconds / 1000 - epoch / 1000

/-- The seconds from the start of the year 1970, with their parts. -/
def exactSeconds : Float := Float.ofInt (x.milliseconds - epoch) / 1000.0

/-! ## Days of weeks and years -/

/-- How many days lie behind the first day of the year. -/
def dayInYear : Int :=
  let first := { x with date := some { x.day with month := 1, day := 1 }, count := none }
  (x.milliseconds - first.milliseconds + noon) / dayLength

/-- How many days lie behind the last Monday. -/
def behindMonday : Int := (x.milliseconds + noon) / dayLength % 7

/-- How many days lie behind the last Sunday. -/
def behindSunday : Int := (x.milliseconds + noon + dayLength) / dayLength % 7

/-- The Thursday of the week, which tells to which year the week belongs. -/
def thursday : Instant :=
  { x with count := some (x.milliseconds + (3 - x.behindMonday) * dayLength), date := none }.withDate

/-- The hour of half a day. -/
def shortHour : Int :=
  let h := if 12 < x.clock.hour then x.clock.hour - 12 else x.clock.hour
  if h = 0 then 12 else h

/-! ## Forms -/

/-- The part of an instant that a letter stands for. -/
def part? (letter : Char) : Option String :=
  let isMorning := x.clock.hour < 12
  let second := wholeOfReal x.clock.second
  match letter with
  | 'd' => some (zeros 2 x.day.day)
  | 'e' => some (padded ' ' 2 x.day.day)
  | 'f' => some (places 6 3 x.clock.second)
  | 'F' => some (zeros 4 x.day.year ++ "-" ++ zeros 2 x.day.month ++ "-" ++ zeros 2 x.day.day)
  | 'G' => some (zeros 4 x.thursday.day.year)
  | 'g' => some (zeros 2 (x.thursday.day.year.tmod 100))
  | 'H' => some (zeros 2 x.clock.hour)
  | 'k' => some (padded ' ' 2 x.clock.hour)
  | 'I' => some (zeros 2 x.shortHour)
  | 'l' => some (padded ' ' 2 x.shortHour)
  | 'j' => some (zeros 3 (x.dayInYear + 1))
  | 'J' => some (String.ofList (RealForm.text { style := .general, precision := 16 } x.julianDay))
  | 'm' => some (zeros 2 x.day.month)
  | 'M' => some (zeros 2 x.clock.minute)
  | 'p' => some (if isMorning then "AM" else "PM")
  | 'P' => some (if isMorning then "am" else "pm")
  | 'R' => some (zeros 2 x.clock.hour ++ ":" ++ zeros 2 x.clock.minute)
  | 's' =>
    some (if x.hasFraction then places 0 3 x.exactSeconds else Numeral.signedDecimal x.seconds)
  | 'S' => some (zeros 2 second)
  | 'T' => some (zeros 2 x.clock.hour ++ ":" ++ zeros 2 x.clock.minute ++ ":" ++ zeros 2 second)
  | 'u' => some (Numeral.signedDecimal (if x.behindSunday = 0 then 7 else x.behindSunday))
  | 'w' => some (Numeral.signedDecimal x.behindSunday)
  | 'U' => some (zeros 2 ((x.dayInYear - x.behindSunday + 7) / 7))
  | 'V' => some (zeros 2 (x.thursday.dayInYear / 7 + 1))
  | 'W' => some (zeros 2 ((x.dayInYear - x.behindMonday + 7) / 7))
  | 'Y' => some (zeros 4 x.day.year)
  | '%' => some "%"
  | _ => none

/-- Put parts of an instant into a form, unless a letter in it stands for none. -/
def formed? (form : Bytes) : Option Bytes :=
  match form with
  | [] => some []
  | 37 :: c :: rest => do
    let own ← x.part? (Char.ofNat c.toNat)
    return Bytes.ofText own ++ (← formed? rest)
  | [37] => none
  | b :: rest => (formed? rest).map (b :: ·)

/-! ## Differences -/

/-- Count a month less until an instant is not on the wrong side of another one, at most so often. -/
def stepMonths (isLate : Instant → Bool) (step : Int) : (fuel : Nat) → Instant → Int → Instant × Int
  | 0, y, months => (y, months)
  | fuel + 1, y, months =>
    if isLate y then
      let d := y.day
      let d := wrapMonth { d with month := d.month + step }
      stepMonths isLate step fuel { y with date := some d, count := none }.withCount (months - 1)
    else (y, months)

/-- What is to be added to another instant to come to this one: whole months, and a time that is less
than one. -/
def difference (y : Instant) : String :=
  let x := x.withBoth
  let y := y.withBoth
  let isLater := y.milliseconds ≤ x.milliseconds
  let sign : Int := if isLater then 1 else -1
  let months := sign * (12 * (x.day.year - y.day.year) + (x.day.month - y.day.month))
  let moved := { y with date := some { x.day with day := y.day.day }, count := none }.withCount
  let isLate := fun z : Instant =>
    if isLater then x.milliseconds < z.milliseconds else z.milliseconds < x.milliseconds
  let (z, months) := stepMonths isLate (-sign) 40 moved months
  let rest : Instant :=
    { count := some (sign * (x.milliseconds - z.milliseconds) + 148699540800000) }
  (if isLater then "+" else "-") ++ zeros 4 (months / 12) ++ "-" ++ zeros 2 (months % 12) ++ "-" ++
    zeros 2 (rest.day.day - 1) ++ " " ++ zeros 2 rest.clock.hour ++ ":" ++
    zeros 2 rest.clock.minute ++ ":" ++ places 6 3 rest.clock.second

/-! ## Values -/

variable (e : Encoding)

/-- The instant that a value tells. -/
def ofValue? (v : Value) : Option Instant :=
  match v with
  | .null => none
  | .integer _ | .real _ => some (ofNumber (realOf e v))
  | v => ofText? (Texts.start e v)

/-- The instant that a value and the changes behind it tell. Without any value, it is the present
one. A date behind the end of its month is one of the next month, unless changes are told. -/
def ofValues? (vs : List Value) : Option Instant := do
  let x ← vs.head?.elim (some present) (ofValue? e)
  let step := fun (x : Instant) ((v, i) : Value × Nat) =>
    if v = .null then none else x.change? (i = 0) (Texts.start e v)
  let x ← vs.tail.zipIdx.foldlM step x
  let x := x.withCount
  if x.isFailed || !(x.count.any isCount) then none
  let isLate := vs.length = 1 && x.date.any (28 < ·.day)
  return if isLate then { x with date := none } else x

/-- The value of a function that tells an instant. -/
def tell (f : String) (args : List Value) : Value :=
  let text := Texts.ofString e
  match f, args with
  | "strftime", form :: rest =>
    if form = .null then .null
    else
      match ofValues? e rest with
      | none => .null
      | some x =>
        let form := (Texts.bytes e form).takeWhile (· ≠ 0)
        (x.withBoth.formed? form).elim .null (Texts.ofBytes e)
  | "timediff", [a, b] =>
    match ofValues? e [a], ofValues? e [b] with
    | some x, some y => text (x.difference y)
    | _, _ => .null
  | f, args =>
    match ofValues? e args, f with
    | none, _ => .null
    | some x, "date" => text x.dateText
    | some x, "time" => text x.timeText
    | some x, "datetime" => text (x.withBoth.dateText ++ " " ++ x.withBoth.timeText)
    | some x, "julianday" => realValue x.julianDay
    | some x, "unixepoch" =>
      if x.hasFraction then realValue x.exactSeconds else .integer x.seconds
    | some _, _ => .null

end Instant
end Sql
end FlowAtlas
