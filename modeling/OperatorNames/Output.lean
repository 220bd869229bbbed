import OperatorNames.Document.Scan

/-!
# Writing operators out

`emit` takes items one at a time, writes each operator as a line of its own and flushes after every
line, so that what was written before a failure stays written.  The writer is a value that may run
full or refuse to flush.
-/

namespace OperatorNames

/-- A place that takes octets. -/
structure Writer where
  /-- How many octets it takes in all; `none` for as many as come. -/
  capacity : Option Nat := none
  /-- What it reports when it is full; without a report it just takes no more. -/
  full : Option Fault := none
  /-- Which flush fails, counted from one. -/
  refusedFlush : Option Nat := none
  /-- What it has taken so far. -/
  taken : Bytes := []
  /-- How often it has been flushed. -/
  flushes : Nat := 0

namespace Writer

/-- What a writer reports when octets are left over. -/
def overflow (w : Writer) : Fault :=
  w.full.getD .shortWrite

/-- How many more octets fit; `none` for any number. -/
def room (w : Writer) : Option Nat :=
  w.capacity.map (· - w.taken.length)

/-- Writes octets: all of them, or as many as fit and then a failure. -/
def write (w : Writer) (b : Bytes) : Except Fault Unit × Writer :=
  match w.room with
  | none => (.ok (), { w with taken := w.taken ++ b })
  | some n =>
    if b.length ≤ n then (.ok (), { w with taken := w.taken ++ b })
    else (.error w.overflow, { w with taken := w.taken ++ b.take n })

/-- The failure of a flush that the writer refuses. -/
def flushRefused : Fault := .stated .other "flush refused"

/-- Flushes. -/
def flush (w : Writer) : Except Fault Unit × Writer :=
  let flushed := { w with flushes := w.flushes + 1 }
  if w.refusedFlush = some flushed.flushes then (.error flushRefused, flushed)
  else (.ok (), flushed)

end Writer

/-- Why not every item was written. -/
inductive EmitProblem
  /-- An item is no operator. -/
  | scanning (problem : ScanProblem)
  /-- A line was not taken whole. -/
  | writing (fault : Fault)
  /-- A flush failed. -/
  | flushing (fault : Fault)
  deriving DecidableEq

/-- What has come of writing items. -/
structure Emission where
  /-- How many lines were written and flushed, or why it stopped. -/
  result : Except EmitProblem Nat
  /-- The writer afterwards. -/
  writer : Writer
  /-- How many items were taken. -/
  pulled : Nat

/-- The octets of the line of an operator. -/
def Style.line (style : Style) (op : Operator) : Bytes :=
  Text.Utf8.encode (style.render op ++ ['\n'])

/-- Writes items, of which `count` have been written already. -/
def emitFrom (style : Style) (writer : Writer) (count : Nat) : List Item → Emission
  | [] => { result := .ok count, writer, pulled := count }
  | .error p :: _ => { result := .error (.scanning p), writer, pulled := count + 1 }
  | .ok op :: rest =>
    match writer.write (style.line op) with
    | (.error f, w) => { result := .error (.writing f), writer := w, pulled := count + 1 }
    | (.ok (), w) =>
      match w.flush with
      | (.error f, w) => { result := .error (.flushing f), writer := w, pulled := count + 1 }
      | (.ok (), w) => emitFrom style w (count + 1) rest

/-- Writes items up to the first failure. -/
def emit (style : Style) (writer : Writer) (items : List Item) : Emission :=
  emitFrom style writer 0 items

end OperatorNames
