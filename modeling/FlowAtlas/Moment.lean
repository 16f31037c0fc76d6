import FlowAtlas.Text.Numeral

/-!
# Moments

A moment is a count of seconds from the start of the year 1970, and a part of a second. `Moment.text`
writes it as a date and a time of day without a shift of time zone, the form in which the ledger
keeps the start and the end of a load.
-/

set_option autoImplicit false

namespace FlowAtlas

/-- A moment, counted from the start of the year 1970. -/
structure Moment where
  seconds : Nat
  nanoseconds : Nat := 0
  deriving DecidableEq, Repr, Inhabited

namespace Moment

/-- A day of a year. -/
structure Date where
  year : Nat
  month : Nat
  day : Nat
  deriving DecidableEq, Repr, Inhabited

/-- The date of a day, counted from the start of the year 1970. The calendar repeats after 400 years
of 146097 days, and years are counted from the first of March, so that a leap day ends its year. -/
def Date.ofDayCount (days : Nat) : Date :=
  let fromMarch := days + 719468
  let era := fromMarch / 146097
  let inEra := fromMarch % 146097
  let yearInEra := (inEra - inEra / 1460 + inEra / 36524 - inEra / 146096) / 365
  let inYear := inEra - (365 * yearInEra + yearInEra / 4 - yearInEra / 100)
  let monthFromMarch := (5 * inYear + 2) / 153
  let month := if monthFromMarch < 10 then monthFromMarch + 3 else monthFromMarch - 9
  { year := era * 400 + yearInEra + (if month ≤ 2 then 1 else 0)
    month
    day := inYear - (153 * monthFromMarch + 2) / 5 + 1 }

/-- The digits of a number, with zeros in front up to a width. -/
def padded (width n : Nat) : String :=
  let digits := Nat.toDigits 10 n
  String.ofList (List.replicate (width - digits.length) '0' ++ digits)

/-- The part of a second, in as many groups of three digits as it needs. -/
def fraction (nanoseconds : Nat) : String :=
  if nanoseconds = 0 then ""
  else if nanoseconds % 1000000 = 0 then "." ++ padded 3 (nanoseconds / 1000000)
  else if nanoseconds % 1000 = 0 then "." ++ padded 6 (nanoseconds / 1000)
  else "." ++ padded 9 nanoseconds

/-- The date and the time of day of a moment. -/
def text (t : Moment) : String :=
  let date := Date.ofDayCount (t.seconds / 86400)
  padded 4 date.year ++ "-" ++ padded 2 date.month ++ "-" ++ padded 2 date.day ++ "T" ++
    padded 2 (t.seconds / 3600 % 24) ++ ":" ++ padded 2 (t.seconds / 60 % 60) ++ ":" ++
    padded 2 (t.seconds % 60) ++ fraction t.nanoseconds ++ "+00:00"

end Moment
end FlowAtlas
