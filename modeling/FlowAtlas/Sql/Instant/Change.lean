import FlowAtlas.Sql.Instant

/-!
# Changes of instants

Words change an instant: to the start of a month, to a day of the week, by some units of time, and so
on. `Instant.change?` makes such a change, if the words are known and fit the instant.
-/

set_option autoImplicit false

namespace FlowAtlas
namespace Sql
namespace Instant

/-! ## Meanings of numbers -/

/-- The count of milliseconds of a number that counts seconds from the start of the year 1970. -/
def countOfSeconds (n : Float) : Float := n * 1000.0 + Float.ofInt epoch

/-- Take the number as a count of seconds. -/
def bySeconds (x : Instant) (n : Float) : Instant :=
  { x.onlyCount with count := some (wholeOfReal (countOfSeconds n + 0.5)), number := none }

/-- The first and the last number of seconds that are taken as such where that is not told. -/
def secondLimits : Float × Float := (-210866760000.0, 253402300799.0)

/-- Settle what the number counts: Julian days if it is small, or seconds. -/
def settle (x : Instant) : Instant :=
  match x.number, x.count with
  | some n, none =>
    if secondLimits.1 ≤ n && n ≤ secondLimits.2 then x.bySeconds n else x
  | _, _ => { x with number := none }

/-! ## Clocks -/

/-- The first and the last count of milliseconds for which clocks of a place are known. -/
def clockLimits : Int × Int := (epoch, 213014145600000)

/-- The day that a clock of a place shows. Where clocks are not known, a year counts as one from 2000
on that stands as far behind a leap year. -/
def localDay (x : Instant) : CalendarDay :=
  let n := x.milliseconds
  if clockLimits.1 ≤ n && n ≤ clockLimits.2 then dayOfCount n
  else
    let d := x.day
    let moved := 2000 + d.year.tmod 4 - d.year
    let own := dayOfCount (countOfDay { d with year := d.year + moved } + countOfTime x.clock)
    { own with year := own.year - moved }

/-- The instant on a clock of the place, which goes as the one that is nowhere ahead. -/
def onLocalClock (x : Instant) : Instant :=
  if x.isLocal then { x with isUtc := false }
  else
    let x := x.withCount
    let t := x.clock
    let second := Float.ofInt (wholeOfReal t.second) + Float.ofInt (x.milliseconds % 1000) * 0.001
    { x with
      count := none, number := none, date := some x.localDay, time := some { t with second }
      zone := 0, isUtc := false, isLocal := true, isFailed := false }

/-- The instant on the clock that is nowhere ahead. -/
def onUtcClock (x : Instant) : Instant :=
  if x.isUtc then x else { count := some x.milliseconds, isUtc := true }

/-! ## Days -/

/-- The next day that is so many days behind a Sunday, or the same day. -/
def toWeekday (x : Instant) (n : Int) : Instant :=
  let x := { x.withBoth with zone := 0, count := none }.withCount
  let own := (x.milliseconds + 129600000) / dayLength % 7
  let own := if n < own then own - 7 else own
  (x.later ((n - own) * dayLength)).onlyCount

/-- The day of the week that words tell. -/
def weekday? (cs : List Char) : Option Int := do
  let n ← numberOf? cs
  let w := wholeOfReal n
  if 0.0 ≤ n && n < 7.0 && Float.ofInt w == n then return w else none

/-- The start of a year, a month or a day. -/
def startOf? (x : Instant) (unit : String) : Option Instant := do
  if x.count.isNone && x.date.isNone && x.time.isNone then none
  let x := x.withDate
  let d := x.day
  let d ← match unit with
    | "month" => some { d with day := 1 }
    | "year" => some { d with month := 1, day := 1 }
    | "day" => some d
    | _ => none
  return { x with
    date := some d, time := some ⟨0, 0, 0⟩, count := none, number := none, zone := 0 }

/-! ## Units of time -/

/-- The units of time: their names, the least number of them that is too many, and how many seconds
one takes. -/
def units : List (String × Float × Float) :=
  [("second", 4.6427e+14, 1.0), ("minute", 7.7379e+12, 60.0), ("hour", 1.2897e+11, 3600.0),
    ("day", 5373485.0, 86400.0), ("month", 176546.0, 2592000.0), ("year", 14713.0, 31536000.0)]

/-- A day with a month of the year for its month, which may count further. -/
def wrapMonth (d : CalendarDay) : CalendarDay :=
  let years := if 0 < d.month then (d.month - 1).tdiv 12 else (d.month - 12).tdiv 12
  { d with year := d.year + years, month := d.month - years * 12 }

/-- An instant some units of time later. Months and years are added to the date, and what is left of
them is taken for as many seconds as they have on the whole. -/
def laterBy (x : Instant) (unit : String) (seconds n : Float) : Instant :=
  let half := if n < 0.0 then -0.5 else 0.5
  let whole := wholeOfReal n
  let rest := n - Float.ofInt whole
  let x := { x.withCount with surplus := 0 }
  let (x, n) := match unit with
    | "month" =>
      let x := x.withBoth
      (x.onDay (wrapMonth { x.day with month := x.day.month + whole }), rest)
    | "year" =>
      let x := x.withBoth
      (x.onDay { x.day with year := x.day.year + whole }, rest)
    | _ => (x, n)
  (x.withCount.later (wholeOfReal (n * 1000.0 * seconds + half))).onlyCount

/-- An instant later by a number of units, of which the name is told. -/
def laterByWords? (x : Instant) (n : Float) (cs : List Char) : Option Instant := do
  let name := cs.map Char.toLower
  if name.length < 3 || 10 < name.length then none
  let name := if name.getLast? = some 's' then name.dropLast else name
  let (unit, limit, seconds) ← units.find? fun (unit, _) => unit.toList = name
  if -limit < n && n < limit then return x.laterBy unit seconds n else none

/-- An instant later or earlier by the time of day that a text tells. -/
def laterByTime? (x : Instant) (isNegative : Bool) (cs : List Char) : Option Instant := do
  let t ← ({} : Instant).withTimeOf? cs
  let n := (t.milliseconds - noon).tmod dayLength
  return (x.withCount.later (if isNegative then -n else n)).onlyCount

/-- An instant later or earlier by the years, months and days that a text tells, and by a time of day
behind them. -/
def laterByDate? (x : Instant) (isNegative : Bool) (width : Nat) (cs : List Char) :
    Option Instant := do
  let (years, rest) ← digits? width 0 14712 cs
  let (months, rest) ← digits? 2 0 11 (← behind? '-' rest)
  let (days, rest) ← digits? 2 0 30 (← behind? '-' rest)
  let sign : Int := if isNegative then -1 else 1
  let x := x.withBoth
  let d := x.day
  let d := wrapMonth { d with year := d.year + sign * years, month := d.month + sign * months }
  let x := (x.onDay d).withCount
  let x := { x with date := none, time := none }.later (sign * days * dayLength)
  match rest with
  | [] => return x
  | c :: rest => if isBlank c then x.laterByTime? isNegative rest else none

/-- How many characters stand before the end of the first number of a change. -/
def numberSize (cs : List Char) : Nat :=
  let isEnd := fun (i : Nat) (c : Char) =>
    let isYear := fun width => (digits? width 0 14712 cs.tail).isSome
    c = ':' || isBlank c || c = '-' && (i = 5 && isYear 4 || i = 6 && isYear 5)
  ((cs.zipIdx.drop 1).find? fun (c, i) => isEnd i c).elim cs.length (·.2)

/-- An instant later or earlier by what a text tells that begins with a sign or a digit. -/
def laterByText? (x : Instant) (cs : List Char) : Option Instant := do
  let size := numberSize cs
  let n ← numberOf? (cs.take size)
  let hasSign := cs.head?.any fun c => c = '+' || c = '-'
  let isNegative := cs.head? = some '-'
  match cs.drop size with
  | '-' :: _ => if hasSign then x.laterByDate? isNegative (size - 1) cs.tail else none
  | ':' :: _ => x.laterByTime? isNegative (if hasSign then cs.tail else cs)
  | rest => x.laterByWords? n (rest.dropWhile isBlank)

/-! ## All changes -/

/-- What stands behind some letters at the start, in any case. -/
def behindWords? (words : String) (cs : List Char) : Option (List Char) :=
  if isText (cs.take words.length) words then some (cs.drop words.length) else none

/-- Change an instant as words tell. What a number counts can only be told at once. -/
def change? (x : Instant) (isFirst : Bool) (cs : List Char) : Option Instant := do
  match String.ofList (cs.map Char.toLower) with
  | "auto" => if isFirst then return x.settle else none
  | "ceiling" => return { x.withCount.onlyCount with surplus := 0 }
  | "floor" =>
    let x := x.withCount
    return (x.later (-(x.surplus * dayLength))).onlyCount
  | "julianday" =>
    if isFirst && x.count.isSome && x.number.isSome then return { x with number := none } else none
  | "localtime" => return x.onLocalClock
  | "utc" => return x.onUtcClock
  | "unixepoch" =>
    let n ← x.number
    let count := countOfSeconds n
    if isFirst && 0.0 ≤ count && count < Float.ofInt (countLimit + 1) then return x.bySeconds n
    else none
  | "subsec" | "subsecond" => return { x with hasFraction := true }
  | word =>
    match behindWords? "weekday " cs, behindWords? "start of " cs with
    | some rest, _ => return x.toWeekday (← weekday? rest)
    | none, some _ => x.startOf? (String.ofList (word.toList.drop 9))
    | none, none =>
      if cs.head?.any fun c => c = '+' || c = '-' || c.isDigit then x.laterByText? cs else none

end Instant
end Sql
end FlowAtlas
