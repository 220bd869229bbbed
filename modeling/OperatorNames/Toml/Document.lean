import OperatorNames.Toml.Moment
import OperatorNames.Toml.Node
import OperatorNames.Toml.Number
import OperatorNames.Toml.Quoted

/-!
# Documents of TOML

A document is a list of lines: pairs of a key and a value, headers, comments and empty lines.
`Document.read?` reads one and puts its pairs where the headers say; it refuses whatever is not
well formed, keys that are given twice, and nesting beyond `deepest`.

Values nest, so their reader counts down how much deeper it may go; loops over the parts of a list
are bounded by the length of the text that is left.
-/

namespace OperatorNames.Toml

open Text

/-- How many parts a key may have and how deep values may nest. -/
def deepest : Nat := 79

/-- The text after a comment, if one stands here; the comment may hold no control character. -/
def afterComment : Text → Text
  | '#' :: rest => rest.dropWhile isPlain
  | t => t

/-- The text after the end of a line: blanks, a comment, and the line end or the document's end. -/
def afterLine? (t : Text) : Option Text :=
  match afterComment (afterSpaces t) with
  | [] => some []
  | rest => lineEnd? rest

/-- The text after blanks, line ends and comments.  `fuel` bounds the number of lines. -/
def afterGap (fuel : Nat) (t : Text) : Text :=
  let here := afterComment (afterSpaces t)
  match fuel, lineEnd? here with
  | fuel + 1, some rest => afterGap fuel rest
  | _, _ => here

/-- Whether a character may stand in a key without quotes. -/
def isBare (c : Char) : Bool :=
  c.isAlphanum || c = '_' || c = '-'

/-- Reads one part of a key. -/
def keyPart? (t : Text) : Option (Key × Text) :=
  match Quoted.readShort? t with
  | some (name, rest) => some ({ name, extent := ⟨t, rest⟩ }, rest)
  | none =>
    let name := t.takeWhile isBare
    let rest := t.dropWhile isBare
    if name.isEmpty then none else some ({ name, extent := ⟨t, rest⟩ }, rest)

/-- Reads the parts of a key, of which there may be `fuel`, with blanks around each; the result is
all parts but the last, the last part, and the rest. -/
def key? : (fuel : Nat) → Text → Option ((List Key × Key) × Text)
  | 0, _ => none
  | fuel + 1, t => do
    let (part, rest) ← keyPart? (afterSpaces t)
    match afterSpaces rest with
    | '.' :: more =>
      let ((path, last), rest) ← key? fuel more
      some ((part :: path, last), rest)
    | rest => some (([], part), rest)

/-- Reads a value of one of the kinds that hold no other value. -/
def scalar? (t : Text) : Option (Scalar × Text) :=
  match t with
  | [] => none
  | c :: _ =>
    if c = '"' || c = '\x27' then (Quoted.read? t).map fun (s, rest) => (.string s, rest)
    else if c.isDigit || c = '+' || c = '-' || c = 'i' || c = 'n' then
      match Moment.read? t with
      | some rest => some (.moment, rest)
      | none =>
        match Number.float? t with
        | some (x, rest) => some (.float x, rest)
        | none => (Number.integer? t).map fun (n, rest) => (.integer n, rest)
    else
      match dropStart? ['t', 'r', 'u', 'e'] t with
      | some rest => some (.boolean true, rest)
      | none => (dropStart? ['f', 'a', 'l', 's', 'e'] t).map fun rest => (.boolean false, rest)

/-- Reads the items of an array after its bracket or after a comma: the items so far stand in
reverse in `done`. -/
def items? (value? : Text → Option (Node × Text)) (done : List Node) :
    (fuel : Nat) → Text → Option (List Node × Text)
  | 0, _ => none
  | fuel + 1, t =>
    match afterGap fuel t with
    | ']' :: rest => some (done.reverse, rest)
    | here => do
      let (item, rest) ← value? here
      match afterGap fuel rest with
      | ']' :: rest => some ((item :: done).reverse, rest)
      | ',' :: rest => items? value? (item :: done) fuel rest
      | _ => none

/-- Reads a pair up to the end of its value. -/
def pair? (value? : Text → Option (Node × Text)) (t : Text) : Option (Pair × Text) := do
  let ((path, key), rest) ← key? deepest t
  let rest ← dropStart? ['='] rest
  let (value, rest) ← value? (afterSpaces rest)
  some ({ path, key, value }, rest)

/-- Reads the pairs of an inline table that has at least one; the pairs so far stand in reverse in
`done`. -/
def inlinePairs? (value? : Text → Option (Node × Text)) (done : List Pair) :
    (fuel : Nat) → Text → Option (List Pair × Text)
  | 0, _ => none
  | fuel + 1, t => do
    let (pair, rest) ← pair? value? t
    match afterSpaces rest with
    | '}' :: rest => some ((pair :: done).reverse, rest)
    | ',' :: rest => inlinePairs? value? (pair :: done) fuel rest
    | _ => none

/-- Reads a value in which values may nest `depth` deep. -/
def value? : (depth : Nat) → Text → Option (Node × Text)
  | 0, t => (scalar? t).map fun (s, rest) => (.scalar s ⟨t, rest⟩, rest)
  | depth + 1, t =>
    match t with
    | '[' :: rest =>
      (items? (value? depth) [] (rest.length + 1) rest).map fun (items, after) =>
        (.array items ⟨t, after⟩, after)
    | '{' :: rest =>
      match afterSpaces rest with
      | '}' :: after => some (.inlineTable [] ⟨t, after⟩, after)
      | _ => do
        let (pairs, after) ← inlinePairs? (value? depth) [] (rest.length + 1) rest
        let entries ← Entries.addPairs [] pairs
        some (.inlineTable entries ⟨t, after⟩, after)
    | _ => (scalar? t).map fun (s, rest) => (.scalar s ⟨t, rest⟩, rest)

/-- One line of a document, or several that belong together. -/
inductive Statement
  /-- Nothing but blanks and a comment. -/
  | empty
  /-- A key and its value. -/
  | pair (pair : Pair)
  /-- A header in one pair of brackets, or in two. -/
  | header (repeated : Bool) (path : List Key) (key : Key) (extent : Extent)

/-- Reads a header from its bracket on. -/
def header? (t : Text) : Option (Statement × Text) :=
  match t with
  | '[' :: '[' :: rest => do
    let ((path, key), rest) ← key? deepest rest
    let rest ← dropStart? [']', ']'] rest
    some (.header true path key ⟨t, rest⟩, rest)
  | '[' :: rest => do
    let ((path, key), rest) ← key? deepest rest
    let rest ← dropStart? [']'] rest
    some (.header false path key ⟨t, rest⟩, rest)
  | _ => none

/-- Reads a statement and the end of its line. -/
def statement? (t : Text) : Option (Statement × Text) :=
  match afterLine? t with
  | some rest => some (.empty, rest)
  | none => do
    let here := afterSpaces t
    let (statement, rest) ←
      if here.head? = some '[' then header? here
      else (pair? (value? deepest) here).map fun (pair, rest) => (.pair pair, rest)
    let rest ← afterLine? rest
    some (statement, rest)

/-- Reads all statements; `fuel` bounds their number. -/
def statements? (done : List Statement) : (fuel : Nat) → Text → Option (List Statement)
  | _, [] => some done.reverse
  | 0, _ => none
  | fuel + 1, t => do
    let (statement, rest) ← statement? t
    statements? (statement :: done) fuel rest

/-- The pairs before the first header, and the sections after it. -/
def sections : List Statement → List Pair × List Section
  | [] => ([], [])
  | .empty :: more => sections more
  | .pair pair :: more =>
    let (pairs, parts) := sections more
    (pair :: pairs, parts)
  | .header repeated path key extent :: more =>
    let (pairs, parts) := sections more
    let closing := (pairs.getLast?.map (·.value.extent.closing)).getD extent.closing
    ([], { repeated, path, key, pairs, extent := ⟨extent.opening, closing⟩ } :: parts)

/-- A document that has been read. -/
structure Document where
  /-- What the document's own table holds. -/
  entries : Entries
  /-- From the start of the document to the end of the last value before the first header. -/
  extent : Extent

/-- Reads a document.  It may start with a byte order mark. -/
def Document.read? (t : Text) : Option Document := do
  let start := if t.head?.any (·.toNat = 0xFEFF) then t.tail else t
  let (pairs, parts) := sections (← statements? [] (start.length + 1) start)
  let entries ← Entries.addPairs [] pairs
  let entries ← parts.foldlM (fun entries part => entries.addSection part part.path) entries
  let closing := (pairs.getLast?.map (·.value.extent.closing)).getD t
  some { entries, extent := ⟨t, closing⟩ }

end OperatorNames.Toml
