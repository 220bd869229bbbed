/-!
# Text and bytes

Text is a list of characters and raw data a list of octets, so that every function on them is
plain list recursion.  This module also holds the decimal form of a number.
-/

namespace OperatorNames

/-- A run of characters. -/
abbrev Text := List Char

/-- A run of octets. -/
abbrev Bytes := List UInt8

namespace Text

/-- The decimal digits of a number, without a leading zero. -/
def decimal (n : Nat) : Text :=
  Nat.toDigits 10 n

/-- The value of a decimal digit. -/
def digit? (c : Char) : Option Nat :=
  if '0' ≤ c ∧ c ≤ '9' then some (c.toNat - 48) else none

/-- The value of a hexadecimal digit of either case. -/
def hexDigit? (c : Char) : Option Nat :=
  if '0' ≤ c ∧ c ≤ '9' then some (c.toNat - 48)
  else if 'a' ≤ c ∧ c ≤ 'f' then some (c.toNat - 87)
  else if 'A' ≤ c ∧ c ≤ 'F' then some (c.toNat - 55)
  else none

/-- The hexadecimal digit of a value below sixteen, in lower case. -/
def hexDigit (n : Nat) : Char :=
  if n < 10 then Char.ofNat (48 + n) else Char.ofNat (87 + n)

/-- The hexadecimal digit of a value below sixteen, in upper case. -/
def upperHexDigit (n : Nat) : Char :=
  if n < 10 then Char.ofNat (48 + n) else Char.ofNat (55 + n)

/-- The hexadecimal digits of a number, in lower case and without a leading zero. -/
def hex (n : Nat) : Text :=
  Nat.toDigits 16 n

/-- The number that a run of digits of base `base` denotes; `none` when one of them is no digit of
that base or when there is none. -/
def number? (base : Nat) (digits : Text) : Option Nat :=
  if digits.isEmpty then none
  else digits.foldlM (fun n c => (hexDigit? c).bind fun d =>
    if d < base then some (n * base + d) else none) 0

/-- Cuts a text at every character of a kind: `n` such characters give `n + 1` pieces. -/
def cutAt (cut : Char → Bool) : Text → List Text
  | [] => [[]]
  | c :: rest =>
    if cut c then [] :: cutAt cut rest
    else match cutAt cut rest with
      | [] => [[c]]
      | piece :: more => (c :: piece) :: more

/-- Joins pieces with a separator between neighbours. -/
def joinWith (separator : Text) : List Text → Text
  | [] => []
  | [piece] => piece
  | piece :: more => piece ++ separator ++ joinWith separator more

/-- The text after a given beginning, when the text has that beginning. -/
def dropStart? : (start : Text) → Text → Option Text
  | [], rest => some rest
  | _ :: _, [] => none
  | a :: start, b :: rest => if a = b then dropStart? start rest else none

/-- An ASCII letter in lower case; every other character as it is. -/
def lowerAscii (c : Char) : Char :=
  if 'A' ≤ c ∧ c ≤ 'Z' then Char.ofNat (c.toNat + 32) else c

end Text

end OperatorNames
