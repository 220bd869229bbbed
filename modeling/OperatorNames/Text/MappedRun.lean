import OperatorNames.Text.Ranges

/-!
# Mappings of characters

A mapping of many characters is held as runs of characters that are mapped alike, and as a list of
the characters that go to several.  Written as a word, a run is `first-last/step>target`, where a
step of one and a last member equal to the first are left out; and a character that goes to several
is `character>first,second,…`.
-/

namespace OperatorNames.Text

/-- A run of characters that are mapped alike: `first`, `first + step`, … up to `last` go to
`target`, `target + step`, … -/
structure MappedRun where
  /-- The first code point of the run. -/
  first : Nat
  /-- The last code point of the run. -/
  last : Nat
  /-- The distance between two members of the run. -/
  step : Nat
  /-- The code point that `first` goes to. -/
  target : Nat

/-- The image of a code point under a run, when the run has it as a member. -/
def MappedRun.image? (run : MappedRun) (n : Nat) : Option Nat :=
  if run.first ≤ n ∧ n ≤ run.last ∧ (n - run.first) % run.step = 0 then
    some (run.target + (n - run.first))
  else none

/-- The two sides of a word at its arrow. -/
def sidesOf (word : Text) : Text × Text :=
  match cutAt (· = '>') word with
  | [source, target] => (source, target)
  | _ => (word, [])

/-- The run that a word names. -/
def MappedRun.ofWord (word : Text) : MappedRun :=
  let (source, target) := sidesOf word
  let (range, step) :=
    match cutAt (· = '/') source with
    | [range, step] => (range, codeOf step)
    | _ => (source, 1)
  let (first, last) := rangeOf range
  { first, last, step, target := codeOf target }

/-- The runs that lines of words name. -/
def MappedRun.ofLines (lines : List String) : List MappedRun :=
  (wordsOf lines).map .ofWord

/-- The characters that go to several, as lines of words name them. -/
def expansionsOfLines (lines : List String) : List (Nat × List Nat) :=
  (wordsOf lines).map fun word =>
    let (source, target) := sidesOf word
    (codeOf source, (cutAt (· = ',') target).map codeOf)

/-- A run of characters of one class. -/
structure ClassRun where
  /-- The first code point of the run. -/
  first : Nat
  /-- The last code point of the run. -/
  last : Nat
  /-- The class of every member. -/
  value : Nat

/-- The class of a code point, when the run has it as a member. -/
def ClassRun.class? (run : ClassRun) (n : Nat) : Option Nat :=
  if run.first ≤ n ∧ n ≤ run.last then some run.value else none

end OperatorNames.Text
