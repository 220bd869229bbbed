import OperatorNames.Text.WordChar

/-!
# Tokens on a line

A token is a non-empty run of word characters and dots between two backticks.  `Token.first?`
finds the leftmost one: the closing backtick of a candidate that fails can open the next.
-/

namespace OperatorNames.Token

open Text

/-- Whether a character can be part of a token. -/
def isTokenChar (c : Char) : Bool :=
  isWord c || c = '.'

/-- The token that starts here, just after a backtick. -/
def closed? (rest : Text) : Option Text :=
  let run := rest.takeWhile isTokenChar
  if run.isEmpty then none
  else match rest.dropWhile isTokenChar with
    | '`' :: _ => some run
    | _ => none

/-- The leftmost token of a text. -/
def first? : Text → Option Text
  | [] => none
  | c :: rest =>
    if c = '`' then
      match closed? rest with
      | some token => some token
      | none => first? rest
    else first? rest

end OperatorNames.Token
