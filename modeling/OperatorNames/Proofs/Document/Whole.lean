import OperatorNames.Document.Lines

/-!
# Documents taken as a whole

`linesOf` goes through the pieces of a document as they come.  This module says what its lines are
without looking at the pieces: all octets that arrive are joined (`arrived`), cut at every line feed
by the standard library's `List.splitOn`, and one carriage return before a line feed goes.  What
follows the last line feed counts only if it is not empty and the document was not broken off.

The main statement is `linesOf_eq_wholeLines`.  It rests on `cutLines_append`: cutting carries over
from one chunk to the next, so that it makes no difference where a document is cut into chunks.
-/

namespace OperatorNames.Document

/-- The octets that arrive before the source fails for good. -/
def arrived : List Piece → Bytes
  | [] => []
  | .octets b :: rest => b ++ arrived rest
  | .failure f :: rest => if f.isInterruption then arrived rest else []

/-- The failure that breaks a document off, if one does. -/
def brokenOff? : List Piece → Option Fault
  | [] => none
  | .octets _ :: rest => brokenOff? rest
  | .failure f :: rest => if f.isInterruption then brokenOff? rest else some f

/-- A line without the carriage return of its line end. -/
def withoutReturn (line : Bytes) : Bytes :=
  if line.getLast? = some 0x0D then line.dropLast else line

/-- The lines of octets that a line feed ends. -/
def completeLines (b : Bytes) : List Bytes :=
  (b.splitOn 0x0A).dropLast.map withoutReturn

/-- What follows the last line feed. -/
def openPart (b : Bytes) : Bytes :=
  (b.splitOn 0x0A).getLastD []

/-- The lines of a document that are read in full. -/
def wholeLines (pieces : List Piece) : List Bytes :=
  let b := arrived pieces
  if openPart b ≠ [] ∧ brokenOff? pieces = none then completeLines b ++ [openPart b]
  else completeLines b

/-! ## Cutting at line feeds -/

theorem cutLines_closed (closed : List Bytes) (begun b : Bytes) :
    cutLines closed begun b =
      (closed.reverse ++ (cutLines [] begun b).1, (cutLines [] begun b).2) := by
  induction b generalizing closed begun with
  | nil => simp [cutLines]
  | cons octet rest ih =>
      simp only [cutLines]
      split
      · rw [ih (closeLine begun :: closed), ih [closeLine begun]]
        simp
      · exact ih closed (octet :: begun)

/-- Cutting goes on in one chunk where it stopped in the chunk before. -/
theorem cutLines_append (begun b c : Bytes) :
    cutLines [] begun (b ++ c) =
      ((cutLines [] begun b).1 ++ (cutLines [] (cutLines [] begun b).2 c).1,
        (cutLines [] (cutLines [] begun b).2 c).2) := by
  induction b generalizing begun with
  | nil => simp [cutLines]
  | cons octet rest ih =>
      rw [List.cons_append]
      simp only [cutLines]
      split
      -- a line feed closes a line, and from there on nothing is begun
      · rw [cutLines_closed [closeLine begun] [] (rest ++ c),
          cutLines_closed [closeLine begun] [] rest, ih []]
        simp
      · exact ih (octet :: begun)

theorem closeLine_eq (begun : Bytes) : closeLine begun = withoutReturn begun.reverse := by
  cases begun with
  | nil => rfl
  | cons last before =>
      simp only [closeLine, withoutReturn, List.getLast?_reverse, List.head?_cons,
        Option.some.injEq]
      split
      · simp
      · rfl

/-- The lines that are cut off are the complete ones, and what stays open is the rest. -/
theorem cutLines_eq {begun : Bytes} (h : 0x0A ∉ begun) (b : Bytes) :
    cutLines [] begun b =
      (completeLines (begun.reverse ++ b), (openPart (begun.reverse ++ b)).reverse) := by
  induction b generalizing begun with
  | nil =>
      have hsplit : begun.reverse.splitOn 0x0A = [begun.reverse] :=
        List.splitOn_eq_singleton (by simpa using h)
      simp [cutLines, completeLines, openPart, hsplit]
  | cons octet rest ih =>
      by_cases hoctet : octet = 0x0A
      · subst hoctet
        -- what was begun before the line feed is the first piece, since no line feed is in it
        have hsplit : (begun.reverse ++ 0x0A :: rest).splitOn 0x0A =
            begun.reverse :: rest.splitOn 0x0A :=
          List.splitOn_append_cons_self_of_not_mem (by simpa using h) rest
        obtain ⟨first, more, hmore⟩ := List.exists_cons_of_ne_nil (List.splitOn_ne_nil 0x0A rest)
        simp only [cutLines, if_true]
        rw [cutLines_closed, ih List.not_mem_nil, closeLine_eq]
        simp [completeLines, openPart, hsplit, hmore]
      · simp only [cutLines, if_neg hoctet]
        rw [ih (by simp [h, Ne.symm hoctet])]
        simp

/-! ## Documents in pieces -/

/-- What the open part of a document and its end add to its lines. -/
def lastLine (stillOpen : Bytes) : Option Fault → List Line
  | some f => [.error f]
  | none => if stillOpen.isEmpty then [] else [.ok stillOpen.reverse]

/-- The lines of a document do not depend on where it is cut into chunks. -/
theorem linesFrom_eq_cutLines (begun : Bytes) (pieces : List Piece) :
    linesFrom begun pieces =
      (cutLines [] begun (arrived pieces)).1.map .ok ++
        lastLine (cutLines [] begun (arrived pieces)).2 (brokenOff? pieces) := by
  induction pieces generalizing begun with
  | nil => simp [linesFrom, arrived, brokenOff?, lastLine, cutLines]
  | cons piece rest ih =>
      cases piece with
      | octets b =>
          simp only [linesFrom, arrived, brokenOff?]
          -- the chunk goes on in the line that was open before it, and leaves the one open after it
          rw [ih, cutLines_append, List.map_append, List.append_assoc]
      | failure f =>
          by_cases hf : f.isInterruption = true
          · simp only [linesFrom, arrived, brokenOff?, hf, if_true]
            exact ih begun
          · simp only [linesFrom, arrived, brokenOff?, hf]
            simp [cutLines, lastLine]

/-- **The lines of a document in pieces are the lines of the document as a whole**, and then the
failure that broke it off. -/
theorem linesOf_eq_wholeLines (pieces : List Piece) :
    linesOf pieces =
      (wholeLines pieces).map .ok ++ (brokenOff? pieces).toList.map .error := by
  rw [linesOf, linesFrom_eq_cutLines, cutLines_eq List.not_mem_nil, wholeLines]
  cases hbroken : brokenOff? pieces with
  | some f => simp [lastLine]
  | none =>
      by_cases hopen : openPart (arrived pieces) = []
      · simp [lastLine, hopen]
      · simp [lastLine, hopen]

end OperatorNames.Document
