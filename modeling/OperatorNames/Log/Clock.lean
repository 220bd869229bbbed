import OperatorNames.Text.Basic

/-!
# The time of a record

A time is counted in microseconds from the first moment of 1970, in days of the same length.
-/

namespace OperatorNames.Log.Clock

open Text

/-- A day of the calendar. -/
structure Day where
  /-- The year. -/
  year : Nat
  /-- The month, counted from one. -/
  month : Nat
  /-- The day of the month, counted from one. -/
  day : Nat
  deriving DecidableEq

/-- The day that is a number of days after the first of January 1970.  Years are taken to begin in
March, so that a leap day is the last day of its year, and are counted in spans of four hundred. -/
def Day.ofNumber (n : Nat) : Day :=
  let shifted := n + 719468
  let span := shifted / 146097
  let inSpan := shifted % 146097
  let yearInSpan := (inSpan - inSpan / 1460 + inSpan / 36524 - inSpan / 146096) / 365
  let inYear := inSpan - (365 * yearInSpan + yearInSpan / 4 - yearInSpan / 100)
  let monthFromMarch := (5 * inYear + 2) / 153
  let month := if monthFromMarch < 10 then monthFromMarch + 3 else monthFromMarch - 9
  { year := span * 400 + yearInSpan + if month ≤ 2 then 1 else 0
    month
    day := inYear - (153 * monthFromMarch + 2) / 5 + 1 }

/-- A number in at least `width` digits. -/
def padded (width n : Nat) : Text :=
  let digits := decimal n
  List.replicate (width - digits.length) '0' ++ digits

/-- A time in writing. -/
def text (microseconds : Nat) : Text :=
  let seconds := microseconds / 1000000
  let day := Day.ofNumber (seconds / 86400)
  padded 4 day.year ++ '-' :: padded 2 day.month ++ '-' :: padded 2 day.day ++ 'T'
    :: padded 2 (seconds / 3600 % 24) ++ ':' :: padded 2 (seconds / 60 % 60) ++ ':'
    :: padded 2 (seconds % 60) ++ '.' :: padded 6 (microseconds % 1000000) ++ ['Z']

end OperatorNames.Log.Clock
