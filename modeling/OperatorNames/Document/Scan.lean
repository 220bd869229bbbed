import OperatorNames.Document.Lines
import OperatorNames.Operator
import OperatorNames.Token

/-!
# Scanning a document

A scan goes through the lines of a document once.  A fixed number of lines at the top is passed
over; of every later line the leftmost token is taken, if there is one.  A line that cannot be read
or is not UTF-8 ends the scan, wherever it stands.

`Scan.next` delivers one item at a time and `Scan.drain` all that are left.
-/

namespace OperatorNames

/-- Why the compiled form of the token pattern is refused. -/
inductive PatternFault
  /-- The pattern is not well formed. -/
  | malformed (text : String)
  /-- The compiled pattern would be larger than a limit. -/
  | tooLarge (limit : Nat)
  deriving DecidableEq

/-- Why a document cannot be scanned to its end. -/
inductive ScanProblem
  /-- The document cannot be opened. -/
  | unopened (path : Text) (fault : Fault)
  /-- A line, counted from one, cannot be read. -/
  | unread (line : Nat) (fault : Fault)
  /-- The token pattern cannot be compiled. -/
  | pattern (fault : PatternFault)
  deriving DecidableEq

/-- What a scan delivers. -/
abbrev Item := Except ScanProblem Operator

/-- A scan in progress. -/
structure Scan where
  /-- The lines not read yet. -/
  lines : List Document.Line
  /-- How many lines at the top are passed over. -/
  skip : Nat
  /-- How many lines have been read without a failure to deliver them. -/
  read : Nat := 0
  /-- How many lines have been searched for a token. -/
  searched : Nat := 0
  /-- How many operators have been found. -/
  found : Nat := 0

namespace Scan

/-- A scan of a document given in pieces. -/
def ofPieces (pieces : List Document.Piece) (skip : Nat) : Scan :=
  { lines := Document.linesOf pieces, skip }

/-- A scan of a document given as octets. -/
def ofBytes (b : Bytes) (skip : Nat) : Scan :=
  ofPieces [.octets b] skip

/-- What one more line does to a scan: the item that it delivers, if any, and the state after it.
A failure leaves no line to read. -/
def take (s : Scan) (line : Document.Line) (rest : List Document.Line) : Option Item × Scan :=
  let number := s.read + 1
  match line with
  | .error f => (some (.error (.unread number f)), { s with lines := [] })
  | .ok octets =>
    match Text.Utf8.decode octets with
    | none => (some (.error (.unread number .notUtf8)), { s with lines := [] })
    | some text =>
      if number ≤ s.skip then (none, { s with lines := rest, read := number })
      else
        let passed := { s with lines := rest, read := number, searched := s.searched + 1 }
        match Token.first? text with
        | none => (none, passed)
        | some token => (some (.ok (.ofToken token)), { passed with found := s.found + 1 })

/-- Reads `lines` up to the next item. -/
def nextFrom (s : Scan) : List Document.Line → Option Item × Scan
  | [] => (none, { s with lines := [] })
  | line :: rest =>
    match s.take line rest with
    | (some item, after) => (some item, after)
    | (none, after) => nextFrom after rest

/-- The next item, and the scan after it; no item when the document is exhausted. -/
def next (s : Scan) : Option Item × Scan :=
  s.nextFrom s.lines

/-- Reads `lines` to the end; `items` holds what has been delivered, the last one first. -/
def drainFrom (s : Scan) (items : List Item) : List Document.Line → List Item × Scan
  | [] => (items.reverse, { s with lines := [] })
  | line :: rest =>
    match s.take line rest with
    | (some (.error p), after) => ((Except.error p :: items).reverse, after)
    | (some (.ok op), after) => drainFrom after (.ok op :: items) rest
    | (none, after) => drainFrom after items rest

/-- All items that are left, and the scan after them. -/
def drain (s : Scan) : List Item × Scan :=
  s.drainFrom [] s.lines

end Scan

end OperatorNames
