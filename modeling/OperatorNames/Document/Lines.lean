import OperatorNames.Fault
import OperatorNames.Text.Utf8

/-!
# The lines of a document

A document arrives in pieces: chunks of octets cut anywhere, with failures between them.  Lines end
at a line feed; a carriage return just before it belongs to the line end.  What follows the last
line feed is a line too unless it is empty or the source failed before its end.

`cutLines` cuts a run of octets and says what stays open at its end; `linesOf` goes through the
pieces with it, so that where a document is cut makes no difference.
-/

namespace OperatorNames.Document

/-- A piece of a document as its source delivers it. -/
inductive Piece
  /-- Some octets. -/
  | octets (b : Bytes)
  /-- A failed attempt to read more. -/
  | failure (f : Fault)
  deriving DecidableEq

/-- A line read, without its line end, or the failure that came instead. -/
abbrev Line := Except Fault Bytes

/-- A line from its octets in reverse order, without the carriage return of its line end. -/
def closeLine : Bytes → Bytes
  | [] => []
  | last :: before => if last = 0x0D then before.reverse else (last :: before).reverse

/-- Cuts octets at their line feeds.  `begun` holds, in reverse order, what the current line has so
far; the result is the lines closed and what the last, open one has so far. -/
def cutLines (closed : List Bytes) (begun : Bytes) : Bytes → List Bytes × Bytes
  | [] => (closed.reverse, begun)
  | octet :: rest =>
    if octet = 0x0A then cutLines (closeLine begun :: closed) [] rest
    else cutLines closed (octet :: begun) rest

/-- The lines of a document of which `begun` has been read, in reverse order, since the last line
feed.  An interrupted attempt is made again; any other failure ends the document. -/
def linesFrom (begun : Bytes) : List Piece → List Line
  | [] => if begun.isEmpty then [] else [.ok begun.reverse]
  | .failure f :: rest => if f.isInterruption then linesFrom begun rest else [.error f]
  | .octets b :: rest =>
    let (closed, stillOpen) := cutLines [] begun b
    closed.map .ok ++ linesFrom stillOpen rest

/-- The lines of a document given in pieces. -/
def linesOf (pieces : List Piece) : List Line :=
  linesFrom [] pieces

end OperatorNames.Document
