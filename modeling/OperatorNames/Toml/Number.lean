import OperatorNames.Binary64

/-!
# Numbers of TOML

Whole numbers in four bases and floating-point numbers.  A floating-point number is told from a
whole one by its fraction or exponent.  An underscore may stand between two digits.
-/

namespace OperatorNames.Toml

open Text

namespace Number

/-- Whether a character is a digit of a base. -/
def isDigit (base : Nat) (c : Char) : Bool :=
  match hexDigit? c with
  | some d => d < base
  | none => false

/-- The digits that a text starts with, in reverse after `done`, and what follows them.  An
underscore that no digit follows ends the run. -/
def digitsFrom (base : Nat) (done : Text) : Text → Text × Text
  | '_' :: c :: rest =>
    if isDigit base c then digitsFrom base (c :: done) rest else (done.reverse, '_' :: c :: rest)
  | c :: rest =>
    if isDigit base c then digitsFrom base (c :: done) rest else (done.reverse, c :: rest)
  | [] => (done.reverse, [])

/-- Reads a run of digits that may start with zeros. -/
def digits? (base : Nat) : Text → Option (Text × Text)
  | c :: rest => if isDigit base c then some (digitsFrom base [c] rest) else none
  | [] => none

/-- Reads a sign, if there is one; `true` is minus. -/
def sign : Text → Bool × Text
  | '-' :: rest => (true, rest)
  | '+' :: rest => (false, rest)
  | t => (false, t)

/-- Reads decimal digits without a leading zero. -/
def whole? : Text → Option (Text × Text)
  | '0' :: rest => some (['0'], rest)
  | t => digits? 10 t

/-- The value of digits. -/
def value (base : Nat) (digits : Text) : Nat :=
  (number? base digits).getD 0

/-- What the numbers of a document stay below; it is two to the power of 63. -/
def bound : Nat := 0x8000000000000000

/-- Reads a whole number that 64 bits with a sign can hold.  The three bases other than ten have a
mark before the digits and no sign. -/
def integer? (t : Text) : Option (Int × Text) :=
  let marked (base : Nat) (rest : Text) : Option (Int × Text) :=
    (digits? base rest).bind fun (digits, rest) =>
      if value base digits < bound then some (value base digits, rest) else none
  match t with
  | '0' :: 'x' :: rest => marked 16 rest
  | '0' :: 'o' :: rest => marked 8 rest
  | '0' :: 'b' :: rest => marked 2 rest
  | _ =>
    let (negative, unsigned) := sign t
    (whole? unsigned).bind fun (digits, rest) =>
      let n : Int := if negative then -(value 10 digits) else value 10 digits
      if -bound ≤ n ∧ n < bound then some (n, rest) else none

/-- Reads a fraction, if there is a point; `none` when no digit follows the point. -/
def fraction? : Text → Option (Text × Text)
  | '.' :: rest => digits? 10 rest
  | t => some ([], t)

/-- Reads an exponent, if there is a mark for it; `none` when no digit follows the mark. -/
def exponent? (t : Text) : Option (Int × Text) :=
  let after (rest : Text) : Option (Int × Text) :=
    let (negative, unsigned) := sign rest
    (digits? 10 unsigned).map fun (digits, rest) =>
      (if negative then -(value 10 digits) else value 10 digits, rest)
  match t with
  | 'e' :: rest => after rest
  | 'E' :: rest => after rest
  | _ => some (0, t)

/-- Reads a floating-point number with digits.  One beyond every finite number is refused unless it
is negative. -/
def decimal? (t : Text) : Option (Binary64 × Text) := do
  let (negative, unsigned) := sign t
  let (head, afterHead) ← whole? unsigned
  if afterHead.head?.any fun c => c = '.' || c = 'e' || c = 'E' then
    let (tail, afterTail) ← fraction? afterHead
    let (exponent, rest) ← exponent? afterTail
    let x := Binary64.ofDecimal negative (value 10 (head ++ tail)) (exponent - tail.length)
    if x = .infinite false then none else some (x, rest)
  else none

/-- Reads a floating-point number, which may also be an infinity or undefined. -/
def float? (t : Text) : Option (Binary64 × Text) :=
  match sign t with
  | (negative, 'i' :: 'n' :: 'f' :: rest) => some (.infinite negative, rest)
  | (_, 'n' :: 'a' :: 'n' :: rest) => some (.undefined, rest)
  | _ => decimal? t

end Number

end OperatorNames.Toml
