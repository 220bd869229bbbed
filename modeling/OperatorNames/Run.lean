import OperatorNames.Fetch

/-!
# Runs

A run takes a document, fetched or local, scans it and writes its operators out.  Operators are
written as they are found, so that those before a problem have been written when it is told.
-/

namespace OperatorNames

open Text

/-- Where a document comes from. -/
inductive Source
  /-- It is fetched from an address. -/
  | remote (url : Text)
  /-- It is a file. -/
  | file (path : Text)
  deriving DecidableEq

/-- The source that is meant: a file if one is named, else an address if one is given, else the
address of the configuration. -/
def Source.select (url file : Option Text) (config : Config) : Source :=
  match file, url with
  | some path, _ => .file path
  | none, some url => .remote url
  | none, none => .remote config.sourceUrl

/-- What a run has come to. -/
structure Summary where
  /-- How many lines have been searched. -/
  lines : Nat
  /-- How many operators have been written. -/
  operators : Nat
  /-- The digest of the document, if it was fetched. -/
  digest : Option Text := none
  deriving DecidableEq

/-- The pieces in which an entry is read. -/
def Entry.pieces : Entry → List Document.Piece
  | .file content => [.octets content]
  | .directory => [.failure .isADirectory]

/-- Writes items on the stream for results. -/
def emitItems (style : Style) (items : List Item) : Job Nat :=
  fun s =>
    let emission := emit style s.output items
    let s := { s with output := emission.writer }
    match emission.result with
    | .ok count => (.ok count, s)
    | .error problem => (.error (.ofEmission problem), s)

/-- Scans a file and writes its operators out.  The file is read after it has been opened, so that a
log that is scanned itself has the record of that in it already. -/
def scanFile (path : Text) (config : Config) (style : Style) : Job Summary := do
  let skip := config.skipLines.toNat
  let (place, opened) ← Job.inspect (fun fault => .scan (.unopened path fault)) (·.find · path)
  Job.note (.scanning path skip)
  let entry ← Job.see fun s => (s.files.at? place).getD opened
  let (items, scan) := (Scan.ofPieces entry.pieces skip).drain
  let operators ← emitItems style items
  return { lines := scan.searched, operators }

/-- Takes the document of a source, scans it and writes its operators out. -/
def scanSource (source : Source) (config : Config) (style : Style) : Job Summary :=
  match source with
  | .file path => scanFile path config style
  | .remote url => do
    Job.note (.fetching url)
    let spooled ← (Fetch.toFile url (Fetch.limitsOf config)).during (.fetch url)
    let summary ← Fetch.withFile spooled (scanFile spooled.path config style)
    return { summary with digest := some spooled.digest }

/-- A run. -/
def run (source : Source) (config : Config) (style : Style) : Job Summary := do
  let summary ← scanSource source config style
  Job.note (.scanned summary.lines summary.operators)
  return summary

/-- The digest of a file in hexadecimal digits; the file is read in portions. -/
def digestOfFile (path : Text) : Job Text := do
  let (_, entry) ←
    Job.inspect (fun fault => .during (.openFile path) (.file fault)) (·.find · path)
  match entry with
  | .directory => Job.fail (.during (.readFile path) (.file .isADirectory))
  | .file content =>
    let portions ← Job.see (·.reading.portions content)
    return Sha256.hexOf (Sha256.Hasher.ofPortions portions)

/-- The digest of what an address names. -/
def digestOfUrl (url : Text) (config : Config) : Job Text := do
  let spooled ← (Fetch.toFile url (Fetch.limitsOf config)).during (.fetch url)
  Fetch.withFile spooled do
    let digest ← digestOfFile spooled.path
    Job.note (.digested spooled.length url digest)
    return digest

end OperatorNames
