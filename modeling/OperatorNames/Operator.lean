import OperatorNames.Text.WordChar
import OperatorNames.Text.UpperCase

/-!
# Operators

An operator has a token, as the status document writes it (`i32x4.trunc_sat_f32x4`), and a name
derived from it (`I32x4TruncSatF32x4`).  This module holds the derivation and the two ways in which
an operator is written out.
-/

namespace OperatorNames

open Text

/-- Whether a character ends a segment of a token. -/
def isSeparator (c : Char) : Bool :=
  c = '.' || c = '_'

/-- A segment with its first character in upper case; the rest keeps its case. -/
def capitalize : Text → Text
  | [] => []
  | c :: rest => upper c ++ rest

/-- The name that a token stands for: its segments, each capitalized, without the separators.
Neighbouring, leading and trailing separators give empty segments, which add nothing. -/
def nameOfToken (token : Text) : Text :=
  (cutAt isSeparator token).flatMap capitalize

/-- An operator of the status document. -/
structure Operator where
  /-- The operator as the document writes it. -/
  token : Text
  /-- The operator's name in the program that executes it. -/
  name : Text
  deriving DecidableEq

/-- The operator of a token. -/
def Operator.ofToken (token : Text) : Operator :=
  { token, name := nameOfToken token }

/-- How an operator is written out. -/
inductive Style
  /-- The quoted name and a comma, for an array literal. -/
  | listEntry
  /-- The token and the name. -/
  | pair
  deriving DecidableEq, Inhabited

/-- An operator as one line of output, without the line end. -/
def Style.render : Style → Operator → Text
  | .listEntry, op => '"' :: op.name ++ ['"', ',']
  | .pair, op => op.token ++ [' ', '-', '-', ' '] ++ op.name

end OperatorNames
