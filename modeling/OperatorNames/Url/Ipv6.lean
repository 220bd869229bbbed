import OperatorNames.Text.Basic

/-!
# IPv6 addresses

An address of 128 bits is eight pieces of sixteen bits in hexadecimal digits with colons between
them.  One run of zeros may be left out between two colons, and the last two pieces may be written
as an IPv4 address.
-/

namespace OperatorNames.Ipv6

open Text

/-- Reads a piece. -/
def piece? (t : Text) : Option Nat :=
  if t.length ≤ 4 then number? 16 t else none

/-- Reads one of the four numbers of an embedded IPv4 address, which has no needless zeros. -/
def octet? (t : Text) : Option Nat :=
  match t with
  | '0' :: _ :: _ => none
  | _ =>
    if t.length ≤ 3 then (number? 10 t).bind fun n => if n ≤ 255 then some n else none
    else none

/-- Reads an embedded IPv4 address as two pieces. -/
def embedded? (t : Text) : Option (List Nat) :=
  match (cutAt (· = '.') t).mapM octet? with
  | some [a, b, c, d] => some [a * 256 + b, c * 256 + d]
  | _ => none

/-- Reads groups, of which the last may be an embedded address if `last` says so. -/
def groups? (last : Bool) : List Text → Option (List Nat)
  | [] => some []
  | [group] =>
    if last && group.contains '.' then embedded? group else (piece? group).map ([·])
  | group :: more => do
    let piece ← piece? group
    let pieces ← groups? last more
    some (piece :: pieces)

/-- Reads the pieces on one side of what is left out; an empty side has none. -/
def side? (last : Bool) (t : Text) : Option (List Nat) :=
  if t.isEmpty then some [] else groups? last (cutAt (· = ':') t)

/-- Cuts a text at the first two colons in a row. -/
def cutAtGap : Text → Option (Text × Text)
  | ':' :: ':' :: rest => some ([], rest)
  | [] => none
  | c :: rest => (cutAtGap rest).map fun (before, after) => (c :: before, after)

/-- Reads an address as its eight pieces. -/
def read? (t : Text) : Option (List Nat) :=
  match cutAtGap t with
  | none => (side? true t).bind fun pieces => if pieces.length = 8 then some pieces else none
  | some (before, after) => do
    let front ← side? false before
    let back ← side? true after
    let count := front.length + back.length
    if count < 8 then some (front ++ List.replicate (8 - count) 0 ++ back) else none

/-- The number of zeros that pieces start with. -/
def zeros (pieces : List Nat) : Nat :=
  (pieces.takeWhile (· = 0)).length

/-- The longest run of zeros, by its place and its length; the first one of several. -/
def longestGap (pieces : List Nat) : Nat × Nat :=
  (List.range pieces.length).foldl
    (fun (start, length) i =>
      let here := zeros (pieces.drop i)
      if length < here then (i, here) else (start, length))
    (0, 0)

/-- Writes pieces with colons between them. -/
def writePieces (pieces : List Nat) : Text :=
  joinWith [':'] (pieces.map hex)

/-- Writes an address; the longest run of at least two zeros is left out. -/
def write (pieces : List Nat) : Text :=
  let (start, length) := longestGap pieces
  if length < 2 then writePieces pieces
  else writePieces (pieces.take start) ++ [':', ':'] ++ writePieces (pieces.drop (start + length))

end OperatorNames.Ipv6
