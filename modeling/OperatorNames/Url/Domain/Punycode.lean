import OperatorNames.Text.Basic

/-!
# Punycode

A label with characters beyond ASCII is written in ASCII: first its ASCII characters, then, after a
hyphen, where and which the others are.  The others are listed by code point and, among equal ones,
by place; each is told by its distance from the one before in that order, a number in digits of a
base that adapts to what has been written.
-/

namespace OperatorNames.Domain.Punycode

open Text

/-- The number of digits. -/
def base : Nat := 36

/-- The least code point that is not written literally. -/
def firstCode : Nat := 128

/-- The digit of a value below the base. -/
def digit (n : Nat) : Char :=
  if n < 26 then Char.ofNat (97 + n) else Char.ofNat (22 + n)

/-- The value of a digit. -/
def value? (c : Char) : Option Nat :=
  if 'a' ≤ c ∧ c ≤ 'z' then some (c.toNat - 97)
  else if 'A' ≤ c ∧ c ≤ 'Z' then some (c.toNat - 65)
  else if '0' ≤ c ∧ c ≤ '9' then some (c.toNat - 22)
  else none

/-- Scales a distance down until it is small; the result is the bias that it gives. -/
def scaleDown (bias : Nat) (delta : Nat) : Nat :=
  if 455 < delta then scaleDown (bias + base) (delta / 35)
  else bias + 36 * delta / (delta + 38)
termination_by delta
decreasing_by omega

/-- The bias after a distance; `count` is the number of characters placed so far, and the first
distance counts for less. -/
def adapt (delta count : Nat) (first : Bool) : Nat :=
  let delta := if first then delta / 700 else delta / 2
  scaleDown 0 (delta + delta / count)

/-- The least value that a digit in a given place cannot end a number with. -/
def threshold (bias place : Nat) : Nat :=
  min 26 (max 1 (place - bias))

/-- The digits of a number.  `place` counts the places in steps of the base. -/
def writeNumber (bias place n : Nat) : Text :=
  let t := threshold bias place
  if n < t then [digit n]
  else digit (t + (n - t) % (base - t)) :: writeNumber bias (place + base) ((n - t) / (base - t))
termination_by n
decreasing_by
  have ht : 1 ≤ threshold bias place ∧ threshold bias place ≤ 26 := by
    unfold threshold
    omega
  exact Nat.lt_of_le_of_lt (Nat.div_le_self _ _) (by omega)

/-- Where the writer stands. -/
structure Writer where
  /-- The text written so far. -/
  written : Text
  /-- The distance since the last character written. -/
  delta : Nat
  /-- The bias of the next number. -/
  bias : Nat
  /-- How many characters have been written. -/
  count : Nat
  /-- How many of them stand in ASCII. -/
  literals : Nat

/-- Passes over the characters of a label, writing those of code point `n`. -/
def Writer.pass (n : Nat) (w : Writer) (label : Text) : Writer :=
  label.foldl (fun w c =>
    if c.toNat < n then { w with delta := w.delta + 1 }
    else if c.toNat = n then
      { w with
        written := w.written ++ writeNumber w.bias base w.delta
        delta := 0
        bias := adapt w.delta (w.count + 1) (w.count = w.literals)
        count := w.count + 1 }
    else w) w

/-- Writes the characters of the code points from `n` on that a label has, the least one first.
`fuel` bounds the number of code points. -/
def Writer.passes (label : Text) : (fuel : Nat) → (n : Nat) → Writer → Text
  | 0, _, w => w.written
  | fuel + 1, n, w =>
    match (label.filter (n ≤ ·.toNat)).map Char.toNat with
    | [] => w.written
    | m :: more =>
      let next := more.foldl min m
      let w := { w with delta := w.delta + (next - n) * (w.count + 1) }
      let w := w.pass next label
      passes label fuel (next + 1) { w with delta := w.delta + 1 }

/-- Writes a label. -/
def encode (label : Text) : Text :=
  let literals := label.filter (·.toNat < firstCode)
  let start := if literals.isEmpty then [] else literals ++ ['-']
  Writer.passes label label.length firstCode
    { written := start, delta := 0, bias := 72, count := literals.length
      literals := literals.length }

/-- Reads one number: its value and what follows it. -/
def readNumber? (bias : Nat) (place weight sum : Nat) : Text → Option (Nat × Text)
  | [] => none
  | c :: rest =>
    (value? c).bind fun d =>
      let sum := sum + d * weight
      let t := threshold bias place
      if d < t then some (sum, rest)
      else readNumber? bias (place + base) (weight * (base - t)) sum rest

/-- Puts the characters that numbers tell of into a label.  `n` and `index` are the last code point
and the place after it, and `fuel` bounds the number of characters. -/
def insertAll (label : Text) (n index bias : Nat) (first : Bool) :
    (fuel : Nat) → Text → Option Text
  | _, [] => some label
  | 0, _ => none
  | fuel + 1, t =>
    (readNumber? bias base 1 0 t).bind fun (delta, rest) =>
      let count := label.length + 1
      let n := n + (index + delta) / count
      let index := (index + delta) % count
      if n.isValidChar then
        insertAll (label.take index ++ Char.ofNat n :: label.drop index) n (index + 1)
          (adapt delta count first) false fuel rest
      else none

/-- Reads a label; `none` when it is not written properly. -/
def decode? (t : Text) : Option Text :=
  let tail := (t.reverse.takeWhile (· ≠ '-')).reverse
  let literals := t.take (t.length - tail.length - 1)
  let numbers := if literals.isEmpty then t else tail
  if literals.all (·.toNat < firstCode) then
    insertAll literals firstCode 0 72 true numbers.length numbers
  else none

end OperatorNames.Domain.Punycode
