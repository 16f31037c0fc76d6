import FlowAtlas.Sql.Number

/-!
# Dates and times of day

An `Instant` is a date and a time of day as far as they are known: as a count of milliseconds from the
noon that begins the Julian days, as a year, month and day, as an hour, minute and second, or as a
number of which it is not yet told what it counts. Each of these can be calculated from others, and
`Instant.ofText?` reads them.
-/

set_option autoImplicit false

namespace FlowAtlas
namespace Sql

/-- A day of a calendar in which a year has twelve months of up to 31 days. -/
structure CalendarDay where
  year : Int
  month : Int
  day : Int
  deriving DecidableEq, Repr, Inhabited

/-- A time of day. -/
structure DayTime where
  hour : Int
  minute : Int
  second : Float
  deriving Repr, Inhabited

/-- A date and a time of day, as far as they are known. -/
structure Instant where
  /-- Milliseconds since the Julian days began. -/
  count : Option Int := none
  date : Option CalendarDay := none
  time : Option DayTime := none
  /-- A number that tells the instant in one way or another. -/
  number : Option Float := none
  /-- How many minutes the clock is ahead. -/
  zone : Int := 0
  /-- How many days the date is behind the end of its month. -/
  surplus : Int := 0
  isUtc : Bool := false
  isLocal : Bool := false
  /-- Whether parts of seconds are told. -/
  hasFraction : Bool := false
  isFailed : Bool := false
  deriving Repr, Inhabited

namespace Instant

/-- The milliseconds of a day. -/
def dayLength : Int := 86400000

/-- The milliseconds of half a day, by which Julian days begin after dates. -/
def noon : Int := 43200000

/-- The milliseconds from the start of the Julian days to the start of the year 1970. -/
def epoch : Int := 210866760000000

/-- The milliseconds of the last instant of the year 9999. -/
def countLimit : Int := 464269060799999

/-- Whether a count of milliseconds is one of an instant that can be told. -/
def isCount (n : Int) : Bool := 0 ≤ n && n ≤ countLimit

/-- What is no instant. -/
def failed : Instant := { isFailed := true }

/-! ## Calculating -/

/-- The day that stands for a date that is not told. -/
def defaultDay : CalendarDay := ⟨2000, 1, 1⟩

/-- The milliseconds from the start of the Julian days to a day. A year begins with March here, so
that a leap day ends it. -/
def countOfDay (d : CalendarDay) : Int :=
  let (year, month) := if d.month ≤ 2 then (d.year - 1, d.month + 12) else (d.year, d.month)
  let century := year.tdiv 100
  let leap := 2 - century + century.tdiv 4
  let years := (36525 * (year + 4716)).tdiv 100
  let months := (306001 * (month + 1)).tdiv 10000
  (2 * (years + months + d.day + leap) - 3049) * noon

/-- The day of a count of milliseconds. -/
def dayOfCount (n : Int) : CalendarDay :=
  let days := (n + noon) / dayLength
  let century := (4 * days - 7468865).tdiv 146097
  let a := days + 1 + century - century.tdiv 4 + 1524
  let years := (20 * a - 2442) / 7305
  let inYear := a - 36525 * (years % 32768) / 100
  let months := 10000 * inYear / 306001
  let month := if months < 14 then months - 1 else months - 13
  ⟨if 2 < month then years - 4716 else years - 4715, month, inYear - 306001 * months / 10000⟩

/-- The milliseconds of a time of day. -/
def countOfTime (t : DayTime) : Int :=
  t.hour * 3600000 + t.minute * 60000 + wholeOfReal (t.second * 1000.0 + 0.5)

/-- The time of day of a count of milliseconds. -/
def timeOfCount (n : Int) : DayTime :=
  let inDay := (n + noon) % dayLength
  let minutes := inDay / 60000
  ⟨minutes / 60, minutes % 60, Float.ofInt (inDay % 60000) / 1000.0⟩

/-- Know the count of milliseconds. -/
def withCount (x : Instant) : Instant :=
  match x.count with
  | some _ => x
  | none =>
    let d := x.date.getD defaultDay
    if d.year < -4713 || 9999 < d.year || x.number.isSome then failed
    else
      let n := countOfDay d
      match x.time with
      | none => { x with count := some n }
      | some t =>
        let n := n + countOfTime t
        if x.zone = 0 then { x with count := some n }
        else { x with
          count := some (n - x.zone * 60000), date := none, time := none, zone := 0
          isUtc := true, isLocal := false }

/-- Know the date. -/
def withDate (x : Instant) : Instant :=
  match x.date, x.count with
  | some _, _ => x
  | none, none => { x with date := some defaultDay }
  | none, some n => if isCount n then { x with date := some (dayOfCount n) } else failed

/-- Know the time of day. -/
def withTime (x : Instant) : Instant :=
  match x.time with
  | some _ => x
  | none =>
    let x := x.withCount
    { x with time := some (timeOfCount (x.count.getD 0)), number := none }

/-- Know the date and the time of day. -/
def withBoth (x : Instant) : Instant := x.withDate.withTime

/-- The count of milliseconds. -/
def milliseconds (x : Instant) : Int := (x.withCount.count).getD 0

/-- The date. -/
def day (x : Instant) : CalendarDay := x.withDate.date.getD defaultDay

/-- The time of day. -/
def clock (x : Instant) : DayTime := x.withTime.time.getD ⟨0, 0, 0⟩

/-- Know nothing but the count of milliseconds. -/
def onlyCount (x : Instant) : Instant := { x with date := none, time := none, zone := 0 }

/-- An instant some milliseconds later. -/
def later (x : Instant) (n : Int) : Instant := { x with count := x.count.map (· + n) }

/-- How many days a date is behind the end of its month. -/
def surplusOf (d : CalendarDay) : Int :=
  let isLeap := d.year % 4 = 0 && (d.year % 100 ≠ 0 || d.year % 400 = 0)
  if d.day ≤ 28 || [1, 3, 5, 7, 8, 10, 12].contains d.month then 0
  else if d.month ≠ 2 then if d.day = 31 then 1 else 0
  else if isLeap then d.day - 29
  else d.day - 28

/-- Know another date, and forget the count of milliseconds. -/
def onDay (x : Instant) (d : CalendarDay) : Instant :=
  { x with date := some d, count := none, surplus := surplusOf d }

/-! ## Reading -/

/-- Whether a character is blank. -/
def isBlank (c : Char) : Bool := NumberText.isBlank c

/-- The number that so many digits at the start write, if it lies between limits. -/
def digits? (size least most : Nat) (cs : List Char) : Option (Nat × List Char) :=
  let digits := cs.take size
  let n := NumberText.ofDigits digits
  if digits.length = size && digits.all Char.isDigit && least ≤ n && n ≤ most then
    some (n, cs.drop size)
  else none

/-- What stands behind a character, if it comes next. -/
def behind? (c : Char) : List Char → Option (List Char)
  | d :: rest => if c = d then some rest else none
  | [] => none

/-- How far a clock is ahead, and whether it is told by the letter Z, if nothing follows. -/
def zone? (cs : List Char) : Option (Int × Bool) := do
  match cs.dropWhile isBlank with
  | [] => return (0, false)
  | c :: rest =>
    let (minutes, isZulu, rest) ←
      if c = 'Z' || c = 'z' then pure (0, true, rest)
      else if c = '+' || c = '-' then do
        let (hours, rest) ← digits? 2 0 14 rest
        let (minutes, rest) ← digits? 2 0 59 (← behind? ':' rest)
        let n : Int := minutes + 60 * hours
        pure (if c = '-' then -n else n, false, rest)
      else none
    if (rest.dropWhile isBlank).isEmpty then return (minutes, isZulu) else none

/-- The part of a second that digits write, cut to thousandths. -/
def fractionOf (digits : List Char) : Float :=
  let (n, scale) := digits.foldl (fun (n, scale) c =>
    (n * 10.0 + Float.ofNat c.toNat - Float.ofNat '0'.toNat, scale * 10.0))
    ((0.0, 1.0) : Float × Float)
  let x := n / scale
  if 0.999 < x then 0.999 else x

/-- The seconds at the start, behind a colon, and what stands behind them. -/
def seconds? (cs : List Char) : Option (Float × List Char) := do
  match cs with
  | ':' :: rest =>
    let (s, rest) ← digits? 2 0 59 rest
    match rest with
    | '.' :: more =>
      let digits := more.takeWhile Char.isDigit
      if digits.isEmpty then return (Float.ofNat s, rest)
      return (Float.ofNat s + fractionOf digits, more.dropWhile Char.isDigit)
    | _ => return (Float.ofNat s, rest)
  | _ => return (0, cs)

/-- Know the time of day that a text tells. -/
def withTimeOf? (x : Instant) (cs : List Char) : Option Instant := do
  let (hour, rest) ← digits? 2 0 24 cs
  let (minute, rest) ← digits? 2 0 59 (← behind? ':' rest)
  let (second, rest) ← seconds? rest
  let (zone, isZulu) ← zone? rest
  return { x with
    count := none, number := none, time := some ⟨hour, minute, second⟩, zone
    isUtc := x.isUtc || isZulu, isLocal := x.isLocal && !isZulu }

/-- Know the date that a text tells, and the time of day behind it. -/
def withDateOf? (x : Instant) (cs : List Char) : Option Instant := do
  let (isNegative, cs) := match cs with
    | '-' :: rest => (true, rest)
    | cs => (false, cs)
  let (year, rest) ← digits? 4 0 14712 cs
  let (month, rest) ← digits? 2 1 12 (← behind? '-' rest)
  let (day, rest) ← digits? 2 1 31 (← behind? '-' rest)
  let rest := rest.dropWhile fun c => isBlank c || c = 'T'
  let x ← (x.withTimeOf? rest).or (if rest.isEmpty then some { x with time := none } else none)
  let x := x.onDay ⟨if isNegative then -year else year, month, day⟩
  return if x.zone = 0 then x else x.withCount

/-- The last number that counts Julian days. -/
def julianLimit : Float := 5373484.5

/-- What a number tells. -/
def ofNumber (n : Float) : Instant :=
  let isJulian := 0.0 ≤ n && n < julianLimit
  { number := some n
    count := if isJulian then some (wholeOfReal (n * 86400000.0 + 0.5)) else none }

/-- The instant at which the year 1970 began, in place of the present one, which is not known here. -/
def present : Instant := { count := some epoch, isUtc := true }

/-- Whether a text is a word, without regard to case. -/
def isText (cs : List Char) (word : String) : Bool := cs.map Char.toLower = word.toList

/-- The number that a text is all of, if it is one. -/
def numberOf? (cs : List Char) : Option Float :=
  let t := NumberText.ofChars cs
  if t.isNumber then some t.realValue else none

/-- What a text tells. -/
def ofText? (cs : List Char) : Option Instant :=
  match ({} : Instant).withDateOf? cs, ({} : Instant).withTimeOf? cs, numberOf? cs with
  | some x, _, _ => some x
  | none, some x, _ => some x
  | none, none, some n => some (ofNumber n)
  | none, none, none =>
    if isText cs "now" then some present
    else if isText cs "subsec" || isText cs "subsecond" then
      some { present with hasFraction := true }
    else none

end Instant
end Sql
end FlowAtlas
