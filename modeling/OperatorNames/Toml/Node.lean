import OperatorNames.Binary64

/-!
# The tree of a TOML document

A table holds nodes under keys, in the order in which the keys come first.  Tables arise in four
ways: a header declares one, a header or a dotted key passes through one on its way, and an inline
table is closed where it is written.  How a table arose decides what may be added to it later.
-/

namespace OperatorNames.Toml

/-- A stretch of a document: the document from its first character on and from its end on. -/
structure Extent where
  /-- The document from the first character of the stretch on. -/
  opening : Text
  /-- The document after the last character of the stretch. -/
  closing : Text

/-- A value without parts. -/
inductive Scalar
  | string (t : Text)
  | integer (n : Int)
  | float (x : Binary64)
  | boolean (b : Bool)
  /-- A date, a time or both. -/
  | moment

/-- A part of a key, and where it stands. -/
structure Key where
  /-- The key's name. -/
  name : Text
  /-- Where the key is written. -/
  extent : Extent

/-- How a table that is not closed arose. -/
inductive Origin
  /-- A header names it. -/
  | declared
  /-- A longer header passes through it. -/
  | passed
  /-- A dotted key passes through it. -/
  | dotted
  deriving DecidableEq

/-- What a key holds. -/
inductive Node
  /-- A value without parts. -/
  | scalar (value : Scalar) (extent : Extent)
  /-- A list of values. -/
  | array (items : List Node) (extent : Extent)
  /-- A table that is closed where it is written. -/
  | inlineTable (entries : List (Text × Node)) (extent : Extent)
  /-- A table to which more may be added. -/
  | table (origin : Origin) (entries : List (Text × Node)) (extent : Extent)
  /-- Tables under one name, each with a header of its own. -/
  | tables (items : List (List (Text × Node) × Extent))

/-- The keys of a table and what they hold. -/
abbrev Entries := List (Text × Node)

/-- Where a node is written. -/
def Node.extent : Node → Extent
  | .scalar _ extent => extent
  | .array _ extent => extent
  | .inlineTable _ extent => extent
  | .table _ _ extent => extent
  | .tables items =>
    { opening := (items.head?.map (·.2.opening)).getD []
      closing := (items.getLast?.map (·.2.closing)).getD [] }

/-- A key with its value.  `path` names the tables on the way to the table of the key. -/
structure Pair where
  /-- The tables that the key passes through. -/
  path : List Key
  /-- The last part of the key. -/
  key : Key
  /-- The value. -/
  value : Node

/-- A header and the pairs below it. -/
structure Section where
  /-- Whether the header opens one more table under its name. -/
  repeated : Bool
  /-- The tables that the header passes through. -/
  path : List Key
  /-- The last part of the header's key. -/
  key : Key
  /-- The pairs below the header. -/
  pairs : List Pair
  /-- From the header to the end of the last value below it. -/
  extent : Extent

namespace Entries

/-- Changes what a key holds, where it stands; a key that is not there yet comes last. -/
def alter (entries : Entries) (name : Text) (change : Option Node → Option Node) :
    Option Entries :=
  match entries.lookup name with
  | none => (change none).map fun node => entries ++ [(name, node)]
  | some held => (change (some held)).map fun node =>
    entries.map fun (other, n) => if other = name then (other, node) else (other, n)

/-- Applies a change to the last table of several. -/
def alterLast (change : Entries → Option Entries) :
    List (Entries × Extent) → Option (List (Entries × Extent))
  | [] => none
  | [(entries, extent)] => (change entries).map fun entries => [(entries, extent)]
  | item :: more => (alterLast change more).map (item :: ·)

/-- Adds a pair to a table.  `settled` says that the table is not one made for dotted keys, so that
the pair may only pass through it; the table in which the pair is written is never settled. -/
def addPair (key : Key) (value : Node) (settled : Bool) : (path : List Key) → Entries →
    Option Entries
  | [], entries =>
    if settled || (entries.lookup key.name).isSome then none
    else some (entries ++ [(key.name, value)])
  | step :: path, entries =>
    entries.alter step.name fun
      | none => (addPair key value false path []).map (.table .dotted · step.extent)
      | some (.table origin inner extent) =>
        if origin = .declared then none
        else (addPair key value (origin ≠ .dotted) path inner).map (.table origin · extent)
      | some (.tables items) => (alterLast (addPair key value true path) items).map .tables
      | some _ => none

/-- Adds pairs to a table, in order. -/
def addPairs (entries : Entries) (pairs : List Pair) : Option Entries :=
  pairs.foldlM (fun entries pair => addPair pair.key pair.value false pair.path entries) entries

/-- Adds the table of a header where the path to it ends.  A table that has only been passed through
so far is declared now and moves to the end. -/
def addTable (entries : Entries) (part : Section) : Option Entries :=
  let name := part.key.name
  if part.repeated then
    entries.alter name fun
      | none => (addPairs [] part.pairs).map fun inner => .tables [(inner, part.extent)]
      | some (.tables items) =>
        (addPairs [] part.pairs).map fun inner => .tables (items ++ [(inner, part.extent)])
      | some _ => none
  else
    let place (begun : Entries) (others : Entries) : Option Entries :=
      (addPairs begun part.pairs).map fun inner =>
        others ++ [(name, .table .declared inner part.extent)]
    match entries.lookup name with
    | none => place [] entries
    | some (.table .passed begun _) => place begun (entries.filter (·.1 ≠ name))
    | some _ => none

/-- Adds the table of a header. -/
def addSection (part : Section) : (path : List Key) → Entries → Option Entries
  | [], entries => addTable entries part
  | step :: path, entries =>
    entries.alter step.name fun
      | none => (addSection part path []).map (.table .passed · step.extent)
      | some (.table origin inner extent) =>
        (addSection part path inner).map (.table origin · extent)
      | some (.tables items) => (alterLast (addSection part path) items).map .tables
      | some _ => none

end Entries

end OperatorNames.Toml
