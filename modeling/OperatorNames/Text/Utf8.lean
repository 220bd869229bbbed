import OperatorNames.Text.Basic

/-!
# UTF-8

`encode` writes a text as octets and `decode` reads octets back.  The reader is a machine that
takes one octet at a time; inside a character it knows how many octets are owed and which range
the next one must lie in, so that overlong forms, surrogates and values beyond the last code point
are refused at the first octet that rules them out.
-/

namespace OperatorNames.Text.Utf8

/-- The octets of one character. -/
def encodeChar (c : Char) : Bytes :=
  let n := c.toNat
  if n < 0x80 then [n.toUInt8]
  else if n < 0x800 then [(0xC0 + n / 64).toUInt8, (0x80 + n % 64).toUInt8]
  else if n < 0x10000 then
    [(0xE0 + n / 4096).toUInt8, (0x80 + n / 64 % 64).toUInt8, (0x80 + n % 64).toUInt8]
  else
    [(0xF0 + n / 262144).toUInt8, (0x80 + n / 4096 % 64).toUInt8, (0x80 + n / 64 % 64).toUInt8,
      (0x80 + n % 64).toUInt8]

/-- The octets of a text. -/
def encode (t : Text) : Bytes :=
  t.flatMap encodeChar

/-- The number of octets of a text. -/
def size (t : Text) : Nat :=
  t.foldl (fun n c => n + (encodeChar c).length) 0

/-- Where the reader stands between two octets. -/
structure State where
  /-- The characters read so far, the last one first. -/
  done : Text := []
  /-- How many octets the current character still needs. -/
  owed : Nat := 0
  /-- The least octet that may come next inside a character. -/
  low : Nat := 0x80
  /-- The greatest octet that may come next inside a character. -/
  high : Nat := 0xBF
  /-- The bits of the current character read so far. -/
  value : Nat := 0

/-- Enters a character whose first octet carries `value` and asks for `owed` more octets, the next
one between `low` and `high`. -/
def State.enter (s : State) (owed low high value : Nat) : State :=
  { done := s.done, owed, low, high, value }

/-- Takes one octet; `none` when it cannot stand here. -/
def State.step (s : State) (octet : UInt8) : Option State :=
  let n := octet.toNat
  match s.owed with
  | 0 =>
    if n < 0x80 then some { done := Char.ofNat n :: s.done }
    else if n < 0xC2 then none
    else if n < 0xE0 then some (s.enter 1 0x80 0xBF (n - 0xC0))
    else if n = 0xE0 then some (s.enter 2 0xA0 0xBF 0)
    else if n = 0xED then some (s.enter 2 0x80 0x9F 0xD)
    else if n < 0xF0 then some (s.enter 2 0x80 0xBF (n - 0xE0))
    else if n = 0xF0 then some (s.enter 3 0x90 0xBF 0)
    else if n < 0xF4 then some (s.enter 3 0x80 0xBF (n - 0xF0))
    else if n = 0xF4 then some (s.enter 3 0x80 0x8F 4)
    else none
  | owed + 1 =>
    if s.low ≤ n ∧ n ≤ s.high then
      let value := s.value * 64 + (n - 0x80)
      match owed with
      | 0 => some { done := Char.ofNat value :: s.done }
      | owed + 1 => some (s.enter (owed + 1) 0x80 0xBF value)
    else none

/-- The text that octets encode; `none` when they are not UTF-8. -/
def decode (b : Bytes) : Option Text :=
  match b.foldlM State.step {} with
  | some { done, owed := 0, .. } => some done.reverse
  | _ => none

/-- The characters that octets encode, with U+FFFD for everything that is not UTF-8: an octet that
cannot stand where it stands ends the character in progress and is read anew. -/
def decodeLossy (b : Bytes) : Text :=
  let replacement : Char := Char.ofNat 0xFFFD
  let last := b.foldl (fun (s : State) octet =>
    match s.step octet with
    | some next => next
    | none =>
      let between : State := { done := replacement :: s.done }
      if s.owed = 0 then between
      else (between.step octet).getD { done := replacement :: between.done })
    {}
  (if last.owed = 0 then last.done else replacement :: last.done).reverse

end OperatorNames.Text.Utf8
