import OperatorNames.Text.Basic

/-!
# Strings of TOML

A string stands between double quotes, where a backslash escapes, or between apostrophes, where
nothing does; either delimiter may be tripled, and then line ends may stand inside.  `read?` reads
any of the four forms and `write` chooses the plainest form that can hold a text.
-/

namespace OperatorNames.Toml

open Text

/-- Whether a character may stand in a comment, and for itself in a string: everything but the
control characters, of which only the tab is admitted. -/
def isPlain (c : Char) : Bool :=
  c = '\t' || (0x20 ≤ c.toNat && c.toNat ≠ 0x7F)

/-- Whether a character is a blank within a line. -/
def isSpace (c : Char) : Bool :=
  c = ' ' || c = '\t'

/-- A text after its blanks. -/
def afterSpaces (t : Text) : Text :=
  t.dropWhile isSpace

/-- A text after the line end that it starts with. -/
def lineEnd? : Text → Option Text
  | '\n' :: rest => some rest
  | '\r' :: '\n' :: rest => some rest
  | _ => none

namespace Quoted

/-- The character that a single letter after a backslash stands for. -/
def escaped? : Char → Option Char
  | 'b' => some '\x08'
  | 't' => some '\t'
  | 'n' => some '\n'
  | 'f' => some '\x0c'
  | 'r' => some '\r'
  | '"' => some '"'
  | '\\' => some '\\'
  | _ => none

/-- The character that hexadecimal digits name. -/
def codePoint? (digits : Text) : Option Char :=
  (number? 16 digits).bind fun n => if n.isValidChar then some (Char.ofNat n) else none

/-- The rest of a string between double quotes; `done` holds what has been read, in reverse. -/
def readBasic (done : Text) : Text → Option (Text × Text)
  | '"' :: rest => some (done.reverse, rest)
  | '\\' :: 'u' :: a :: b :: c :: d :: rest =>
    (codePoint? [a, b, c, d]).bind fun x => readBasic (x :: done) rest
  | '\\' :: 'U' :: a :: b :: c :: d :: e :: f :: g :: h :: rest =>
    (codePoint? [a, b, c, d, e, f, g, h]).bind fun x => readBasic (x :: done) rest
  | '\\' :: c :: rest => (escaped? c).bind fun x => readBasic (x :: done) rest
  | c :: rest => if isPlain c && c ≠ '\\' then readBasic (c :: done) rest else none
  | [] => none

/-- The rest of a string between apostrophes. -/
def readLiteral (done : Text) : Text → Option (Text × Text)
  | '\x27' :: rest => some (done.reverse, rest)
  | c :: rest => if isPlain c then readLiteral (c :: done) rest else none
  | [] => none

/-- Where a tripled delimiter stands here, how many of its marks belong to the string before it, and
the text after it: a run of four or five marks ends with the delimiter. -/
def closing? (mark : Char) (t : Text) : Option (Nat × Text) :=
  let run := (t.takeWhile (· = mark)).length
  if run < 3 then none else some (min (run - 3) 2, t.drop (min run 5))

/-- The rest of a string between tripled double quotes.  A backslash at the end of a line takes the
white space after it away; `gap` says that this is going on. -/
def readLongBasic (done : Text) (gap : Bool) : Text → Option (Text × Text)
  | '"' :: rest =>
    match closing? '"' ('"' :: rest) with
    | some (inside, after) => some ((List.replicate inside '"' ++ done).reverse, after)
    | none => readLongBasic ('"' :: done) false rest
  | '\\' :: 'u' :: a :: b :: c :: d :: rest =>
    (codePoint? [a, b, c, d]).bind fun x => readLongBasic (x :: done) false rest
  | '\\' :: 'U' :: a :: b :: c :: d :: e :: f :: g :: h :: rest =>
    (codePoint? [a, b, c, d, e, f, g, h]).bind fun x => readLongBasic (x :: done) false rest
  | '\\' :: c :: rest =>
    match lineEnd? (afterSpaces (c :: rest)) with
    | some _ => readLongBasic done true (c :: rest)
    | none => (escaped? c).bind fun x => readLongBasic (x :: done) false rest
  | '\r' :: '\n' :: rest => readLongBasic (if gap then done else '\n' :: done) gap rest
  | '\n' :: rest => readLongBasic (if gap then done else '\n' :: done) gap rest
  | c :: rest =>
    if gap && isSpace c then readLongBasic done true rest
    else if isPlain c && c ≠ '\\' then readLongBasic (c :: done) false rest
    else none
  | [] => none

/-- The rest of a string between tripled apostrophes. -/
def readLongLiteral (done : Text) : Text → Option (Text × Text)
  | '\x27' :: rest =>
    match closing? '\x27' ('\x27' :: rest) with
    | some (inside, after) => some ((List.replicate inside '\x27' ++ done).reverse, after)
    | none => readLongLiteral ('\x27' :: done) rest
  | '\r' :: '\n' :: rest => readLongLiteral ('\n' :: done) rest
  | '\n' :: rest => readLongLiteral ('\n' :: done) rest
  | c :: rest => if isPlain c then readLongLiteral (c :: done) rest else none
  | [] => none

/-- Reads a string that ends on its line. -/
def readShort? : Text → Option (Text × Text)
  | '"' :: rest => readBasic [] rest
  | '\x27' :: rest => readLiteral [] rest
  | _ => none

/-- Reads a string of any form.  A line end just after a tripled delimiter is not part of it. -/
def read? : Text → Option (Text × Text)
  | '"' :: '"' :: '"' :: rest => readLongBasic [] false ((lineEnd? rest).getD rest)
  | '\x27' :: '\x27' :: '\x27' :: rest => readLongLiteral [] ((lineEnd? rest).getD rest)
  | t => readShort? t

/-- The four forms of a string. -/
inductive Form
  | basic
  | literal
  | longBasic
  | longLiteral
  deriving DecidableEq

/-- Whether a character can only be written as an escape. -/
def needsEscape (c : Char) : Bool :=
  (c.toNat < 0x20 && c ≠ '\t' && c ≠ '\n') || c.toNat = 0x7F

/-- The length of the longest run of a mark in a text. -/
def longestRun (mark : Char) (t : Text) : Nat :=
  (t.foldl (fun (run, best) c => if c = mark then (run + 1, max best (run + 1)) else (0, best))
    (0, 0)).2

/-- The form in which a text is written: the first of the forms in which every character of it can
stand for itself, and otherwise a form with escapes. -/
def formOf (t : Text) : Form :=
  let escapes := t.any needsEscape
  let backslashes := t.any (· = '\\')
  let lines := t.any (· = '\n')
  let quotes := longestRun '"' t
  let apostrophes := longestRun '\x27' t
  if !escapes && !backslashes && quotes = 0 && !lines then .basic
  else if !escapes && apostrophes = 0 && !lines then .literal
  else if !escapes && !backslashes && quotes ≤ 2 then .longBasic
  else if !escapes && apostrophes ≤ 2 then .longLiteral
  else if lines then .longBasic
  else .basic

/-- A character of which only the number can be written. -/
def numbered (c : Char) : Text :=
  let n := c.toNat
  ['\\', 'u', upperHexDigit (n / 4096 % 16), upperHexDigit (n / 256 % 16),
    upperHexDigit (n / 16 % 16), upperHexDigit (n % 16)]

/-- The escape of a character other than a quote and a line feed, or the character itself. -/
def escape (c : Char) : Text :=
  if c = '\\' then ['\\', '\\']
  else if c = '\t' then ['\\', 't']
  else if c = '\r' then ['\\', 'r']
  else if c = '\x08' then ['\\', 'b']
  else if c = '\x0c' then ['\\', 'f']
  else if c.toNat < 0x20 || c.toNat = 0x7F then numbered c
  else [c]

/-- A text as it stands between double quotes. -/
def escapeBasic (t : Text) : Text :=
  t.flatMap fun c =>
    if c = '"' then ['\\', '"'] else if c = '\n' then ['\\', 'n'] else escape c

/-- A text as it stands between tripled double quotes: a third quote in a row is escaped.  `run`
counts the quotes just before. -/
def escapeLong (run : Nat) : Text → Text
  | [] => []
  | c :: rest =>
    if c = '"' then
      if run = 2 then '\\' :: '"' :: escapeLong 0 rest else '"' :: escapeLong (run + 1) rest
    else if c = '\n' then '\n' :: escapeLong 0 rest
    else escape c ++ escapeLong 0 rest

/-- A text in a given form.  A text with line ends starts on a line of its own. -/
def writeAs (form : Form) (t : Text) : Text :=
  let start : Text := if t.any (· = '\n') then ['\n'] else []
  let quotes := List.replicate 3 '"'
  let apostrophes := List.replicate 3 '\x27'
  match form with
  | .basic => '"' :: escapeBasic t ++ ['"']
  | .literal => '\x27' :: t ++ ['\x27']
  | .longBasic => quotes ++ start ++ escapeLong 0 t ++ quotes
  | .longLiteral => apostrophes ++ start ++ t ++ apostrophes

/-- A text as a string. -/
def write (t : Text) : Text :=
  writeAs (formOf t) t

end Quoted

end OperatorNames.Toml
