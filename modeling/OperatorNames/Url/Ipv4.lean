import OperatorNames.Text.Basic

/-!
# IPv4 addresses

An address of 32 bits is written as one to four numbers with points between them.  Each but the last
stands for eight bits and the last for all that are left; a number may be octal or hexadecimal.
-/

namespace OperatorNames.Ipv4

open Text

/-- Reads a number in the base that its first characters tell; a base without digits is zero. -/
def number? (t : Text) : Option Nat :=
  match t with
  | [] => none
  | ['0'] => some 0
  | '0' :: x :: rest =>
    if x = 'x' || x = 'X' then if rest.isEmpty then some 0 else Text.number? 16 rest
    else Text.number? 8 (x :: rest)
  | _ => Text.number? 10 t

/-- The parts of a host, without the empty one after a last point. -/
def parts (host : Text) : List Text :=
  let all := cutAt (· = '.') host
  if 1 < all.length && all.getLast? = some [] then all.dropLast else all

/-- Whether a host ends in a number, so that it can only be an address. -/
def endsInNumber (host : Text) : Bool :=
  match (parts host).getLast? with
  | none => false
  | some last => (!last.isEmpty && last.all Char.isDigit) || (number? last).isSome

/-- The address that numbers stand for. -/
def ofNumbers? (numbers : List Nat) : Option Nat :=
  match numbers.reverse with
  | [] => none
  | last :: before =>
    let count := before.length
    let bound := Nat.pow 256 (4 - count)
    if 3 < count || before.any (255 < ·) || bound ≤ last then none
    else some (before.reverse.foldl (fun sum n => sum * 256 + n) 0 * bound + last)

/-- Reads an address. -/
def read? (host : Text) : Option Nat :=
  ((parts host).mapM number?).bind ofNumbers?

/-- Writes an address. -/
def write (address : Nat) : Text :=
  joinWith ['.'] ([address / 0x1000000 % 256, address / 0x10000 % 256, address / 0x100 % 256,
    address % 256].map decimal)

end OperatorNames.Ipv4
