import OperatorNames.Text.Basic

/-!
# Sets of characters as ranges of code points

Large sets are written as lines of words, a word being a code point or a range `first-last` in
hexadecimal digits.
-/

namespace OperatorNames.Text

/-- A set of code points, written as closed ranges in rising order. -/
abbrev Ranges := List (Nat × Nat)

/-- Whether a code point lies in one of the ranges. -/
def Ranges.has (ranges : Ranges) (n : Nat) : Bool :=
  ranges.any fun (first, last) => first ≤ n && n ≤ last

/-- The words of lines; one blank stands between two words. -/
def wordsOf (lines : List String) : List Text :=
  lines.flatMap fun line => cutAt (· = ' ') line.toList

/-- The code point that hexadecimal digits name. -/
def codeOf (digits : Text) : Nat :=
  (number? 16 digits).getD 0

/-- The range that a word names. -/
def rangeOf (word : Text) : Nat × Nat :=
  match cutAt (· = '-') word with
  | [first, last] => (codeOf first, codeOf last)
  | _ => (codeOf word, codeOf word)

/-- The set that lines of words name. -/
def Ranges.ofLines (lines : List String) : Ranges :=
  (wordsOf lines).map rangeOf

end OperatorNames.Text
