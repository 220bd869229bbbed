import OperatorNames.Text.Basic

/-!
# Floating-point numbers

A number of 64 bits is held exactly, as a whole number times a power of two.  `Binary64.ofDecimal`
rounds a decimal to the nearest such number, a half going to the even one, and `Binary64.written`
writes the fewest digits that round back to it, without an exponent.
-/

namespace OperatorNames

/-- A floating-point number. -/
inductive Binary64
  /-- Not a number. -/
  | undefined
  /-- Beyond every finite number. -/
  | infinite (negative : Bool)
  /-- `mantissa * 2 ^ exponent`, with a mantissa below `2 ^ 53` and an exponent of at least
  `-1074`; the mantissa is at least `2 ^ 52` unless the exponent is the least one. -/
  | finite (negative : Bool) (mantissa : Nat) (exponent : Int)
  deriving DecidableEq

namespace Binary64

/-- The least mantissa of a number that is not among the smallest. -/
def leastMantissa : Nat := 0x10000000000000

/-- A quotient rounded to a whole number, a half to the even one. -/
def roundDiv (num den : Nat) : Nat :=
  let q := num / den
  let r := num % den
  if 2 * r < den ∨ (2 * r = den ∧ q % 2 = 0) then q else q + 1

/-- `num / (den * 2 ^ exponent)` rounded to a whole number. -/
def scaled (num den : Nat) (exponent : Int) : Nat :=
  roundDiv (num * Nat.pow 2 (-exponent).toNat) (den * Nat.pow 2 exponent.toNat)

/-- The number nearest to a positive quotient. -/
def ofQuotient (negative : Bool) (num den : Nat) : Binary64 :=
  -- the quotient lies between two to the power of `reach - 1` and of `reach + 1`
  let reach : Int := (Nat.log2 num : Int) - Nat.log2 den
  let fits (e : Int) : Bool :=
    num * Nat.pow 2 (-e).toNat < 2 * leastMantissa * (den * Nat.pow 2 e.toNat)
  let exponent := max (-1074) (if fits (reach - 53) then reach - 53 else reach - 52)
  let mantissa := scaled num den exponent
  let (mantissa, exponent) :=
    if mantissa = 2 * leastMantissa then (leastMantissa, exponent + 1) else (mantissa, exponent)
  if exponent > 971 then .infinite negative else .finite negative mantissa exponent

/-- The number nearest to `digits * 10 ^ exponent`.  Where the decimal is far beyond every number
or far below the least one, the power of ten is not worked out. -/
def ofDecimal (negative : Bool) (digits : Nat) (exponent : Int) : Binary64 :=
  let places : Int := (Text.decimal digits).length + exponent
  if digits = 0 ∨ places < -400 then .finite negative 0 (-1074)
  else if places > 400 then .infinite negative
  else ofQuotient negative (digits * Nat.pow 10 exponent.toNat)
    (Nat.pow 10 (-exponent).toNat)

/-- The fewest digits that round back to `mantissa * 2 ^ exponent`, a positive number, and the
power of ten of the last digit.  With each number of digits the two decimals beside the number are
tried; of two that both round back the nearer one is taken, the greater one at the same distance. -/
def shortest (mantissa : Nat) (exponent : Int) : Nat × Int :=
  -- four times the number and the ends of the interval that rounds to it, over one denominator
  let narrow := mantissa = leastMantissa && exponent > -1074
  let unit := Nat.pow 2 exponent.toNat
  let den := 4 * Nat.pow 2 (-exponent).toNat
  let value := 4 * mantissa * unit
  let low := value - (if narrow then 1 else 2) * unit
  let high := value + 2 * unit
  let closed := mantissa % 2 = 0
  let inside (num den' : Nat) : Bool :=
    if closed then low * den' ≤ num * den && num * den ≤ high * den'
    else low * den' < num * den && num * den < high * den'
  let leading : Int := ((Text.decimal (value * Nat.pow 10 400 / den)).length : Int) - 401
  let attempt? (count : Nat) : Option (Nat × Int) :=
    let power := leading + 1 - count
    let up := Nat.pow 10 power.toNat
    let down := Nat.pow 10 (-power).toNat
    let below := value * down / (den * up)
    let above := below + 1
    -- twice the way from the decimal below, against the whole step
    let nearerAbove := den * up ≤ 2 * (value * down - below * (den * up))
    match inside (below * up) down, inside (above * up) down with
    | true, true => some (if nearerAbove then above else below, power)
    | true, false => some (below, power)
    | false, true => some (above, power)
    | false, false => none
  let (digits, power) := ((List.range' 1 17).findSome? attempt?).getD (0, 0)
  -- the decimal above a run of nines is a power of ten, with one digit
  if digits % 10 = 0 then (digits / 10, power + 1) else (digits, power)

/-- `digits * 10 ^ power` written with a decimal point and without an exponent. -/
def positional (digits : Nat) (power : Int) : Text :=
  let shown := Text.decimal digits
  if 0 ≤ power then shown ++ List.replicate power.toNat '0' ++ ['.', '0']
  else
    let places := (-power).toNat
    let padded := List.replicate (places + 1 - shown.length) '0' ++ shown
    padded.take (padded.length - places) ++ '.' :: padded.drop (padded.length - places)

/-- A number in words. -/
def written : Binary64 → Text
  | .undefined => ['N', 'a', 'N']
  | .infinite negative => (if negative then ['-'] else []) ++ ['i', 'n', 'f']
  | .finite negative mantissa exponent =>
    let magnitude :=
      if mantissa = 0 then ['0', '.', '0']
      else
        let (digits, power) := shortest mantissa exponent
        positional digits power
    (if negative then ['-'] else []) ++ magnitude

end Binary64

end OperatorNames
