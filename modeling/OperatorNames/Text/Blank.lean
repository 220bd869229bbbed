import OperatorNames.Text.Basic

/-!
# White space
-/

namespace OperatorNames.Text

/-- Whether a character is white space: the blanks and line ends of every script, but no joiner or
zero-width mark. -/
def isBlank (c : Char) : Bool :=
  let n := c.toNat
  (9 ≤ n && n ≤ 13) || n = 0x20 || n = 0x85 || n = 0xA0 || n = 0x1680 || (0x2000 ≤ n && n ≤ 0x200A)
    || n = 0x2028 || n = 0x2029 || n = 0x202F || n = 0x205F || n = 0x3000

/-- Drops characters of a kind from both ends. -/
def stripEnds (drop : Char → Bool) (t : Text) : Text :=
  ((t.dropWhile drop).reverse.dropWhile drop).reverse

/-- A text without the white space at its ends. -/
def trim (t : Text) : Text :=
  stripEnds isBlank t

end OperatorNames.Text
