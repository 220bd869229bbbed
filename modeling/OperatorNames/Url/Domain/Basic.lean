import OperatorNames.Text.Mark
import OperatorNames.Text.Normal.Basic
import OperatorNames.Url.Domain.Direction
import OperatorNames.Url.Domain.Joining
import OperatorNames.Url.Domain.Mapping
import OperatorNames.Url.Domain.Punycode

/-!
# Domain names

A domain name may be written with any letters; `Domain.toAscii?` gives the form in which it is
looked up.  The name is mapped and brought into normal form, each of its labels is checked, and
labels with characters beyond ASCII are encoded behind a mark.  A label that is encoded already is
decoded first and held to the same checks, so that one name has one form.
-/

namespace OperatorNames.Domain

open Text

/-- What an encoded label starts with. -/
def encodedMark : Text := ['x', 'n', '-', '-']

/-- Whether a text is ASCII. -/
def isAscii (t : Text) : Bool :=
  t.all (·.toNat < 0x80)

/-- How many characters of an encoded label may follow its mark. -/
def longestEncoded : Nat := 2000

/-- How many characters a label that is to be encoded may have. -/
def longestPlain : Nat := 1000

/-- The characters of a label; `none` when it is encoded but not properly, or too long. -/
def plainLabel? (label : Text) : Option Text :=
  match dropStart? encodedMark label with
  | none => some label
  | some encoded =>
    if longestEncoded < encoded.length then none
    else (Punycode.decode? encoded).bind fun plain => if isAscii plain then none else some plain

/-- Whether a label keeps to the rules for labels with characters beyond ASCII: it is not too long,
is in normal form, does not start with a mark or as if it were encoded, and has joiners only where
they join. -/
def isProper (label : Text) : Bool :=
  label.length ≤ longestPlain
    && normalize label = label
    && !label.head?.any isMark
    && (dropStart? encodedMark label).isNone
    && joinersAllowed [] label

/-- Whether a label may stand in a domain name: it has only characters that the mapping keeps, and
those beyond ASCII keep to the rules. -/
def isAllowed (label : Text) : Bool :=
  label.all isValid && (isAscii label || isProper label)

/-- The form in which a label is looked up. -/
def asciiLabel (label : Text) : Text :=
  if isAscii label then label else encodedMark ++ Punycode.encode label

/-- The characters of ASCII that no domain name may have: controls, the blank, and the signs that
divide an address. -/
def isForbidden (c : Char) : Bool :=
  c.toNat ≤ 0x20 || c.toNat = 0x7F
    || ['%', '#', '/', ':', '<', '>', '?', '@', '[', '\\', ']', '^', '|'].contains c

/-- The form in which a domain name is looked up; `none` when it is no domain name. -/
def toAscii? (name : Text) : Option Text := do
  let mapped ← mapText name
  let labels ← (cutAt (· = '.') (normalize mapped)).mapM plainLabel?
  let keepTogether :=
    !labels.any hasRightToLeft || labels.all fun label => keepsDirection (label.map direction)
  if labels.all isAllowed && keepTogether then
    let ascii := joinWith ['.'] (labels.map asciiLabel)
    if ascii.any isForbidden then none else some ascii
  else none

end OperatorNames.Domain
