import OperatorNames.Proofs.Document.Delivery
import OperatorNames.Proofs.Document.Whole
import OperatorNames.Proofs.Text.Utf8

/-!
# Scanning a document as a whole

What a scan delivers, said of the whole document instead of line by line: its lines in order, up to
the first that the standard library does not read as UTF-8 (`readableTexts`); of those beyond the
skipped ones the leftmost tokens; and then the reason why the scan ended early, if it did
(`wholeItems`).

The main statement is `exhausts_ofPieces_iff`.  The induction behind it, `drainFrom_eq`, is over the
lines of the document and speaks of a scan that has read some lines already, since the number of
lines read decides both what is skipped and which line a failure names.
-/

namespace OperatorNames.Scan

open Document

/-- The text of a line, as the standard library reads UTF-8. -/
def standardText? (line : Bytes) : Option Text :=
  line.toByteArray.utf8Decode?.map Array.toList

/-- The texts of the lines before the first that is not UTF-8. -/
def readableTexts : List Bytes → List Text
  | [] => []
  | line :: rest =>
    match standardText? line with
    | none => []
    | some text => text :: readableTexts rest

/-- The operators of texts: of each the leftmost token, if there is one. -/
def operatorsOf (texts : List Text) : List Operator :=
  (texts.filterMap Token.first?).map .ofToken

/-- Why a scan ends before the end of the document, if it does; `read` lines have been read before
the given ones. -/
def earlyEnd? (read : Nat) (lines : List Bytes) (broken : Option Fault) : Option ScanProblem :=
  if (readableTexts lines).length < lines.length then
    some (.unread (read + (readableTexts lines).length + 1) .notUtf8)
  else broken.map (.unread (read + lines.length + 1))

/-- What a scan of a document delivers that passes over `skip` lines. -/
def wholeItems (pieces : List Piece) (skip : Nat) : List Item :=
  (operatorsOf ((readableTexts (wholeLines pieces)).drop skip)).map .ok ++
    (earlyEnd? 0 (wholeLines pieces) (brokenOff? pieces)).toList.map .error

/-- How many lines of a document are searched for a token: the readable ones that are not
skipped. -/
def wholeSearched (pieces : List Piece) (skip : Nat) : Nat :=
  (readableTexts (wholeLines pieces)).length - skip

/-! ## The induction over the lines -/

theorem readableTexts_none {line : Bytes} (rest : List Bytes)
    (htext : Text.Utf8.decode line = none) : readableTexts (line :: rest) = [] := by
  rw [Text.Utf8.decode_eq_utf8Decode?] at htext
  simp only [readableTexts, standardText?, htext]

theorem readableTexts_some {line : Bytes} {text : Text} (rest : List Bytes)
    (htext : Text.Utf8.decode line = some text) :
    readableTexts (line :: rest) = text :: readableTexts rest := by
  rw [Text.Utf8.decode_eq_utf8Decode?] at htext
  simp only [readableTexts, standardText?, htext]

theorem length_readableTexts_le (lines : List Bytes) :
    (readableTexts lines).length ≤ lines.length := by
  induction lines with
  | nil => exact Nat.le_refl 0
  | cons line rest ih =>
      cases htext : Text.Utf8.decode line with
      | none =>
          rw [readableTexts_none rest htext]
          exact Nat.zero_le _
      | some text =>
          rw [readableTexts_some rest htext]
          exact Nat.succ_le_succ ih

theorem earlyEnd?_some {line : Bytes} {text : Text} (read : Nat) (rest : List Bytes)
    (broken : Option Fault) (htext : Text.Utf8.decode line = some text) :
    earlyEnd? read (line :: rest) broken = earlyEnd? (read + 1) rest broken := by
  simp only [earlyEnd?, readableTexts_some rest htext, List.length_cons, Nat.add_lt_add_iff_right]
  rw [show read + ((readableTexts rest).length + 1) + 1 = read + 1 + (readableTexts rest).length + 1
      by omega, show read + (rest.length + 1) + 1 = read + 1 + rest.length + 1 by omega]

/-- What is delivered and left when a scan goes through lines and then, perhaps, a failure. -/
theorem drainFrom_eq (s : Scan) (items : List Item) (lines : List Bytes) (broken : Option Fault) :
    s.drainFrom items (lines.map .ok ++ broken.toList.map .error) =
      (items.reverse ++ ((operatorsOf ((readableTexts lines).drop (s.skip - s.read))).map .ok ++
          (earlyEnd? s.read lines broken).toList.map .error),
        { lines := []
          skip := s.skip
          read := s.read + (readableTexts lines).length
          searched := s.searched + ((readableTexts lines).length - (s.skip - s.read))
          found := s.found +
            (operatorsOf ((readableTexts lines).drop (s.skip - s.read))).length }) := by
  induction lines generalizing s items with
  | nil =>
      cases broken with
      | none => simp [drainFrom, readableTexts, earlyEnd?, operatorsOf]
      | some f => simp [drainFrom, take_failure, readableTexts, earlyEnd?, operatorsOf]
  | cons line rest ih =>
      rw [List.map_cons, List.cons_append, drainFrom]
      cases htext : Text.Utf8.decode line with
      | none =>
          -- the scan ends here, whatever lines and failure were still to come
          rw [take_unreadable s _ htext, readableTexts_none rest htext]
          simp [earlyEnd?, readableTexts_none rest htext, operatorsOf]
      | some text =>
          rw [readableTexts_some rest htext, earlyEnd?_some s.read rest broken htext]
          by_cases hskip : s.read + 1 ≤ s.skip
          · -- a line that is passed over shortens what is still to be skipped
            have hdrop : s.skip - s.read = s.skip - (s.read + 1) + 1 := by omega
            rw [take_header s _ htext hskip]
            dsimp only
            rw [ih, hdrop, List.drop_succ_cons, List.length_cons]
            dsimp only
            congr 2 <;> omega
          · have hskip : s.skip < s.read + 1 := by omega
            -- nothing is skipped any more, neither now nor later
            have hnow : s.skip - s.read = 0 := by omega
            have hlater : s.skip - (s.read + 1) = 0 := by omega
            cases htoken : Token.first? text with
            | none =>
                rw [take_plain s _ htext hskip htoken]
                dsimp only
                rw [ih]
                simp only [hnow, hlater, List.drop_zero, List.length_cons, operatorsOf,
                  List.filterMap_cons, htoken]
                congr 2 <;> omega
            | some token =>
                rw [take_token s _ htext hskip htoken]
                dsimp only
                rw [ih]
                simp only [hnow, hlater, List.drop_zero, List.length_cons, operatorsOf,
                  List.filterMap_cons, htoken, List.map_cons, List.reverse_cons, List.append_assoc,
                  List.cons_append, List.nil_append]
                congr 2 <;> omega

theorem drain_ofPieces (pieces : List Piece) (skip : Nat) :
    (ofPieces pieces skip).drain =
      (wholeItems pieces skip,
        { lines := []
          skip := skip
          read := (readableTexts (wholeLines pieces)).length
          searched := wholeSearched pieces skip
          found := (operatorsOf ((readableTexts (wholeLines pieces)).drop skip)).length }) := by
  rw [drain, ofPieces, linesOf_eq_wholeLines, drainFrom_eq]
  simp [wholeItems, wholeSearched]

/-- **Exhausting a scan delivers exactly what the document as a whole says**, however the document
is cut into pieces and wherever its source was interrupted, and leaves the counters of that. -/
theorem exhausts_ofPieces_iff (pieces : List Piece) (skip : Nat) (items : List Item)
    (after : Scan) :
    Exhausts (ofPieces pieces skip) items after ↔
      items = wholeItems pieces skip ∧
      after = { lines := []
                skip := skip
                read := (readableTexts (wholeLines pieces)).length
                searched := wholeSearched pieces skip
                found := (operatorsOf ((readableTexts (wholeLines pieces)).drop skip)).length } := by
  rw [exhausts_iff_drain, drain_ofPieces, Prod.mk.injEq]
  constructor
  · rintro ⟨hitems, hafter⟩
    exact ⟨hitems.symm, hafter.symm⟩
  · rintro ⟨hitems, hafter⟩
    exact ⟨hitems.symm, hafter.symm⟩

end OperatorNames.Scan
