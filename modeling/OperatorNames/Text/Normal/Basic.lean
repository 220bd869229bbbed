import OperatorNames.Text.Normal.Class
import OperatorNames.Text.Normal.Table

/-!
# Normal form

A text may be written in several equivalent ways: a letter with an accent is one character or two,
and the marks on a letter come in any order.  `normalize` chooses one way: it takes every character
apart, brings the marks of each letter into the order of their classes, and puts together again what
can be put together.
-/

namespace OperatorNames.Text

/-- The first syllable, the first parts, and how many there are of the medial and final ones. -/
structure Hangul where
  /-- The first syllable. -/
  syllable : Nat := 0xAC00
  /-- The first initial consonant. -/
  initial : Nat := 0x1100
  /-- The first vowel. -/
  vowel : Nat := 0x1161
  /-- The code point before the first final consonant. -/
  final : Nat := 0x11A7
  /-- The number of initial consonants. -/
  initials : Nat := 19
  /-- The number of vowels. -/
  vowels : Nat := 21
  /-- The number of final consonants, counting the absent one. -/
  finals : Nat := 28

/-- How syllables are numbered. -/
def hangul : Hangul := {}

/-- The number of a syllable; `none` when the code point is none. -/
def syllable? (n : Nat) : Option Nat :=
  if hangul.syllable ≤ n
      ∧ n < hangul.syllable + hangul.initials * hangul.vowels * hangul.finals then
    some (n - hangul.syllable)
  else none

/-- A character taken apart. -/
def decomposeChar (c : Char) : Text :=
  let n := c.toNat
  if n < 0x80 then [c]
  else match syllable? n with
    | some s =>
      let first := Char.ofNat (hangul.initial + s / (hangul.vowels * hangul.finals))
      let second := Char.ofNat (hangul.vowel + s / hangul.finals % hangul.vowels)
      let third := s % hangul.finals
      first :: second :: (if third = 0 then [] else [Char.ofNat (hangul.final + third)])
    | none => ((decompositions.lookup n).map (·.map Char.ofNat)).getD [c]

/-- Puts a character before a text in reverse; a mark goes behind the marks of greater classes that
the text starts with. -/
def placeMark (c : Char) : Text → Text
  | [] => [c]
  | d :: before =>
    if combiningClass c ≠ 0 && combiningClass c < combiningClass d then d :: placeMark c before
    else c :: d :: before

/-- A text with the marks of each letter in the order of their classes. -/
def orderMarks (t : Text) : Text :=
  (t.foldl (fun done c => placeMark c done) []).reverse

/-- The character that two characters compose to. -/
def composePair? (a b : Char) : Option Char :=
  let m := a.toNat
  let n := b.toNat
  if n < 0x300 then none
  else if hangul.initial ≤ m ∧ m < hangul.initial + hangul.initials
      ∧ hangul.vowel ≤ n ∧ n < hangul.vowel + hangul.vowels then
    some (Char.ofNat (hangul.syllable
      + ((m - hangul.initial) * hangul.vowels + (n - hangul.vowel)) * hangul.finals))
  else match syllable? m with
    | some s =>
      if s % hangul.finals = 0 ∧ hangul.final < n ∧ n < hangul.final + hangul.finals then
        some (Char.ofNat (m + (n - hangul.final)))
      else none
    | none =>
      (compositions.find? fun (_, pair) => pair = [m, n]).map fun (whole, _) => Char.ofNat whole

/-- Putting a text together, in progress. -/
structure Composition where
  /-- What no later character can change, in reverse. -/
  done : Text := []
  /-- The last character of class zero, if there has been one. -/
  base : Option Char := none
  /-- The marks after it that do not compose with it, in reverse. -/
  marks : Text := []

namespace Composition

/-- All of the text so far, in reverse. -/
def whole (s : Composition) : Text :=
  s.marks ++ s.base.toList ++ s.done

/-- Takes the next character.  A mark composes with the base unless a mark of the same or a greater
class stands between them. -/
def step (s : Composition) (c : Char) : Composition :=
  let k := combiningClass c
  let reachable :=
    match s.marks with
    | [] => true
    | last :: _ => combiningClass last < k
  match s.base.bind fun b => if reachable then composePair? b c else none with
  | some b => { s with base := some b }
  | none =>
    if k = 0 then { done := s.whole, base := some c }
    else { s with marks := c :: s.marks }

end Composition

/-- Puts together what can be put together in an ordered text. -/
def compose (t : Text) : Text :=
  (t.foldl Composition.step {}).whole.reverse

/-- A text in normal form. -/
def normalize (t : Text) : Text :=
  compose (orderMarks (t.flatMap decomposeChar))

end OperatorNames.Text
