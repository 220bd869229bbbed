import OperatorNames.Text.Basic

/-!
# Dates and times of TOML

A moment is a date, a time of day, or both, and then perhaps with a distance from universal time.
-/

namespace OperatorNames.Toml

open Text

namespace Moment

/-- Reads exactly `count` digits. -/
def digits? (count : Nat) (t : Text) : Option (Nat × Text) :=
  let digits := t.take count
  if digits.length = count && digits.all Char.isDigit then
    (number? 10 digits).map fun n => (n, t.drop count)
  else none

/-- Reads two digits that denote a number in a range. -/
def pair? (low high : Nat) (t : Text) : Option (Nat × Text) :=
  (digits? 2 t).bind fun (n, rest) => if low ≤ n ∧ n ≤ high then some (n, rest) else none

/-- Reads one given character. -/
def mark? (mark : Char) (t : Text) : Option Text :=
  dropStart? [mark] t

/-- The number of days in a month. -/
def daysIn (year month : Nat) : Nat :=
  if month = 2 then
    if (year % 4 = 0 ∧ year % 100 ≠ 0) ∨ year % 400 = 0 then 29 else 28
  else if month = 4 ∨ month = 6 ∨ month = 9 ∨ month = 11 then 30
  else 31

/-- Reads a date, which has to exist. -/
def date? (t : Text) : Option Text := do
  let (year, rest) ← digits? 4 t
  let rest ← mark? '-' rest
  let (month, rest) ← pair? 1 12 rest
  let rest ← mark? '-' rest
  let (_, rest) ← pair? 1 (daysIn year month) rest
  some rest

/-- Reads a part of a second, if there is a point. -/
def subsecond? : Text → Option Text
  | '.' :: rest => if rest.head?.any Char.isDigit then some (rest.dropWhile Char.isDigit) else none
  | t => some t

/-- Reads a time of day; a minute may have a leap second. -/
def time? (t : Text) : Option Text := do
  let (_, rest) ← pair? 0 23 t
  let rest ← mark? ':' rest
  let (_, rest) ← pair? 0 59 rest
  let rest ← mark? ':' rest
  let (_, rest) ← pair? 0 60 rest
  subsecond? rest

/-- Reads a distance from universal time, if there is one. -/
def offset? (t : Text) : Option Text :=
  let numeric (rest : Text) : Option Text := do
    let (_, rest) ← pair? 0 23 rest
    let rest ← mark? ':' rest
    let (_, rest) ← pair? 0 59 rest
    some rest
  match t with
  | 'Z' :: rest => some rest
  | 'z' :: rest => some rest
  | '+' :: rest => numeric rest
  | '-' :: rest => numeric rest
  | _ => some t

/-- Reads what may follow a date: a mark and a time.  Without a time the date stands alone. -/
def afterDate (t : Text) : Option Text :=
  let withTime (rest : Text) : Option Text := (time? rest).bind offset?
  match t with
  | 'T' :: rest => withTime rest
  | 't' :: rest => withTime rest
  | ' ' :: rest => some ((withTime rest).getD t)
  | _ => some t

/-- The text after the moment that a text starts with. -/
def read? (t : Text) : Option Text :=
  match date? t with
  | some rest => afterDate rest
  | none => time? t

end Moment

end OperatorNames.Toml
