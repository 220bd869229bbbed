import OperatorNames.Text.Utf8

/-!
# Percent-encoding

A character that may not stand for itself in a part of an address is written as its octets, each as
a percent sign and two digits.  Which characters those are depends on the part.
-/

namespace OperatorNames.Percent

open Text

/-- An octet as a percent sign and two digits. -/
def encodeOctet (octet : UInt8) : Text :=
  ['%', upperHexDigit (octet.toNat / 16), upperHexDigit (octet.toNat % 16)]

/-- A text with the characters of a kind encoded. -/
def encode (escaped : Char → Bool) (t : Text) : Text :=
  t.flatMap fun c => if escaped c then (Utf8.encodeChar c).flatMap encodeOctet else [c]

/-- The octets of a text in which octets may be written as a percent sign and two digits. -/
def decodeOctets : Bytes → Bytes
  | [] => []
  | 0x25 :: a :: b :: rest =>
    match hexDigit? (Char.ofNat a.toNat), hexDigit? (Char.ofNat b.toNat) with
    | some high, some low => (high * 16 + low).toUInt8 :: decodeOctets rest
    | _, _ => 0x25 :: decodeOctets (a :: b :: rest)
  | octet :: rest => octet :: decodeOctets rest

/-- Whether a character is a control character or beyond ASCII. -/
def isControl (c : Char) : Bool :=
  c.toNat < 0x20 || 0x7F ≤ c.toNat

/-- The characters that are encoded in a fragment. -/
def inFragment (c : Char) : Bool :=
  isControl c || [' ', '"', '<', '>', '`'].contains c

/-- The characters that are encoded in a query. -/
def inQuery (c : Char) : Bool :=
  isControl c || [' ', '"', '#', '<', '>', '\x27'].contains c

/-- The characters that are encoded in a path. -/
def inPath (c : Char) : Bool :=
  inFragment c || ['#', '?', '\x7b', '\x7d'].contains c

/-- The characters that are encoded in a user name and a password. -/
def inCredentials (c : Char) : Bool :=
  inPath c || ['/', ':', ';', '=', '@', '[', '\\', ']', '^', '|'].contains c

end OperatorNames.Percent
