import OperatorNames.Proofs.Document.WholeScan

/-!
# Calls on a scan

A scan can be asked at any moment for its next item, for either of its counters, and for the number
of items that are left (`Call`).  This module says what holds after any sequence of such calls.

Whatever has been asked, the scan stands at one of two kinds of points (`Reached`): it has read some
lines that hold texts and goes on with the lines after them, or it has met a line that holds none and
is over.  In either case the texts that have been read fix both counters and all items that were
delivered.  The step from one point to another is `coming_nextFrom`, which says what the next item
can be; the run over all calls is `reached_serve`; and `sound_serve` reads off what callers see.
-/

namespace OperatorNames.Scan

open Document

/-! ## Calls -/

/-- What a scan can be asked for. -/
inductive Call
  /-- The next item. -/
  | next
  /-- The number of lines that have been searched. -/
  | searched
  /-- The number of operators that have been found. -/
  | found
  /-- The number of items that are left, which are delivered and dropped. -/
  | count
  deriving DecidableEq

/-- What a scan answers. -/
inductive Answer
  /-- An item, or that there is none. -/
  | item (item : Option Item)
  /-- A number. -/
  | number (n : Nat)

/-- What a call comes to. -/
structure Reply where
  /-- The answer. -/
  answer : Answer
  /-- The items that were delivered for it. -/
  delivered : List Item
  /-- The scan after the call. -/
  after : Scan

/-- Makes one call. -/
def reply (s : Scan) : Call → Reply
  | .next => { answer := .item s.next.1, delivered := s.next.1.toList, after := s.next.2 }
  | .searched => { answer := .number s.searched, delivered := [], after := s }
  | .found => { answer := .number s.found, delivered := [], after := s }
  | .count => { answer := .number s.drain.1.length, delivered := s.drain.1, after := s.drain.2 }

/-- What a sequence of calls comes to. -/
structure Session where
  /-- The answers, in order. -/
  answers : List Answer
  /-- All items that were delivered, in order. -/
  delivered : List Item
  /-- The scan after the calls. -/
  after : Scan

/-- Makes calls, one after the other. -/
def serve (s : Scan) : List Call → Session
  | [] => { answers := [], delivered := [], after := s }
  | call :: more =>
    let first := s.reply call
    let later := first.after.serve more
    { answers := first.answer :: later.answers
      delivered := first.delivered ++ later.delivered
      after := later.after }

/-! ## Lines -/

/-- A line that holds a text. -/
def lineOf (text : Text) : Line :=
  .ok (Text.Utf8.encode text)

/-- Why a line holds no text. -/
inductive Fails : Line → Fault → Prop
  /-- It could not be read. -/
  | undelivered (f : Fault) : Fails (.error f) f
  /-- It is not UTF-8. -/
  | unreadable {octets : Bytes} (htext : Text.Utf8.decode octets = none) :
      Fails (.ok octets) .notUtf8

theorem lineOf_or_fails (line : Line) : (∃ text, line = lineOf text) ∨ ∃ f, Fails line f := by
  cases line with
  | error f => exact .inr ⟨f, .undelivered f⟩
  | ok octets =>
      cases htext : Text.Utf8.decode octets with
      | none => exact .inr ⟨_, .unreadable htext⟩
      | some text => exact .inl ⟨text, by rw [lineOf, Text.Utf8.decode_eq_some_iff.mp htext]⟩

/-- The scan that has read the given texts and goes on with the given lines. -/
def standing (skip : Nat) (texts : List Text) (left : List Line) : Scan :=
  { lines := left
    skip := skip
    read := texts.length
    searched := texts.length - skip
    found := (operatorsOf (texts.drop skip)).length }

/-- The operator that a text adds to those of the texts before it. -/
def added? (skip : Nat) (before : List Text) (text : Text) : Option Operator :=
  if before.length < skip then none else (Token.first? text).map .ofToken

theorem operatorsOf_append (texts more : List Text) :
    operatorsOf (texts ++ more) = operatorsOf texts ++ operatorsOf more := by
  simp [operatorsOf]

theorem length_operatorsOf_le (texts : List Text) : (operatorsOf texts).length ≤ texts.length := by
  have hle := List.length_filterMap_le Token.first? texts
  simpa [operatorsOf] using hle

theorem operatorsOf_drop_concat (skip : Nat) (texts : List Text) (text : Text) :
    operatorsOf ((texts ++ [text]).drop skip) =
      operatorsOf (texts.drop skip) ++ (added? skip texts text).toList := by
  rw [List.drop_append, operatorsOf_append]
  congr 1
  by_cases hskip : texts.length < skip
  · have hdrop : skip - texts.length = skip - texts.length - 1 + 1 := by omega
    rw [hdrop]
    simp [operatorsOf, added?, hskip]
  · have hdrop : skip - texts.length = 0 := by omega
    rw [hdrop]
    cases htoken : Token.first? text with
    | none => simp [operatorsOf, added?, hskip, htoken]
    | some token => simp [operatorsOf, added?, hskip, htoken]

/-- A line that holds a text is read, and its operator is delivered if it adds one. -/
theorem take_lineOf (skip : Nat) (texts : List Text) (text : Text) (left rest : List Line) :
    (standing skip texts left).take (lineOf text) rest =
      ((added? skip texts text).map .ok, standing skip (texts ++ [text]) rest) := by
  have htext := Text.Utf8.decode_encode text
  have hcount := congrArg List.length (operatorsOf_drop_concat skip texts text)
  rw [List.length_append] at hcount
  by_cases hskip : texts.length < skip
  · have hnone : added? skip texts text = none := if_pos hskip
    have hheader : (standing skip texts left).read + 1 ≤ (standing skip texts left).skip := hskip
    rw [lineOf, take_header _ rest htext hheader, hnone]
    simp [standing, hcount, hnone]
    omega
  · have hbeyond : (standing skip texts left).skip < (standing skip texts left).read + 1 := by
      simp only [standing]
      omega
    have hadded : added? skip texts text = (Token.first? text).map .ofToken := if_neg hskip
    cases htoken : Token.first? text with
    | none =>
        rw [lineOf, take_plain _ rest htext hbeyond htoken, hadded, htoken]
        simp [standing, hcount, hadded, htoken]
        omega
    | some token =>
        rw [lineOf, take_token _ rest htext hbeyond htoken, hadded, htoken]
        simp [standing, hcount, hadded, htoken]
        omega

/-- A line that holds none ends the scan. -/
theorem take_of_fails {line : Line} {f : Fault} (hfails : Fails line f) (skip : Nat)
    (texts : List Text) (left rest : List Line) :
    (standing skip texts left).take line rest =
      (some (.error (.unread (texts.length + 1) f)), standing skip texts []) := by
  cases hfails with
  | undelivered => exact take_failure _ f rest
  | unreadable htext => exact take_unreadable _ rest htext

/-! ## The next item -/

/-- What the next item can be, and where the scan stands after it, if `before` has been read and
`left` is left.  Lines that hold texts without an operator are passed on the way. -/
inductive Coming (skip : Nat) (before : List Text) (left : List Line) : Option Item → Scan → Prop
  /-- The document is exhausted. -/
  | nothing {passed : List Text} (hleft : left = passed.map lineOf)
      (hpassed : operatorsOf ((before ++ passed).drop skip) = operatorsOf (before.drop skip)) :
      Coming skip before left none (standing skip (before ++ passed) [])
  /-- A text adds an operator. -/
  | operator {passed : List Text} {text : Text} {rest : List Line} {op : Operator}
      (hleft : left = passed.map lineOf ++ lineOf text :: rest)
      (hpassed : operatorsOf ((before ++ passed).drop skip) = operatorsOf (before.drop skip))
      (hadded : added? skip (before ++ passed) text = some op) :
      Coming skip before left (some (.ok op)) (standing skip (before ++ passed ++ [text]) rest)
  /-- A line holds no text. -/
  | problem {passed : List Text} {line : Line} {rest : List Line} {f : Fault}
      (hleft : left = passed.map lineOf ++ line :: rest)
      (hpassed : operatorsOf ((before ++ passed).drop skip) = operatorsOf (before.drop skip))
      (hfails : Fails line f) :
      Coming skip before left (some (.error (.unread ((before ++ passed).length + 1) f)))
        (standing skip (before ++ passed) [])

/-- One more text without an operator may be passed before what comes next. -/
theorem Coming.pass {skip : Nat} {before : List Text} {text : Text} {rest : List Line}
    {item : Option Item} {after : Scan} (hnone : added? skip before text = none)
    (h : Coming skip (before ++ [text]) rest item after) :
    Coming skip before (lineOf text :: rest) item after := by
  have hsame : operatorsOf ((before ++ [text]).drop skip) = operatorsOf (before.drop skip) := by
    rw [operatorsOf_drop_concat, hnone]
    simp
  have happend : ∀ passed, before ++ [text] ++ passed = before ++ text :: passed := by simp
  cases h with
  | nothing hleft hpassed =>
      rw [happend] at hpassed ⊢
      exact .nothing (by rw [hleft, List.map_cons]) (hpassed.trans hsame)
  | operator hleft hpassed hadded =>
      rw [happend] at hpassed hadded ⊢
      exact .operator (by rw [hleft, List.map_cons, List.cons_append]) (hpassed.trans hsame) hadded
  | problem hleft hpassed hfails =>
      rw [happend] at hpassed ⊢
      exact .problem (by rw [hleft, List.map_cons, List.cons_append]) (hpassed.trans hsame) hfails

theorem coming_nextFrom (skip : Nat) (before : List Text) (left : List Line) :
    Coming skip before left ((standing skip before left).nextFrom left).1
      ((standing skip before left).nextFrom left).2 := by
  suffices h : ∀ lines, Coming skip before left ((standing skip before lines).nextFrom left).1
      ((standing skip before lines).nextFrom left).2 from h left
  induction left generalizing before with
  | nil =>
      intro lines
      have hnothing : Coming skip before [] none (standing skip (before ++ []) []) :=
        .nothing rfl (by rw [List.append_nil])
      rw [List.append_nil] at hnothing
      exact hnothing
  | cons line rest ih =>
      intro lines
      rcases lineOf_or_fails line with ⟨text, rfl⟩ | ⟨f, hfails⟩
      · rw [nextFrom, take_lineOf]
        cases hadded : added? skip before text with
        | none => exact .pass hadded (ih (before ++ [text]) rest)
        | some op =>
            have hoperator : Coming skip before (lineOf text :: rest) (some (.ok op))
                (standing skip (before ++ [] ++ [text]) rest) :=
              .operator rfl (by rw [List.append_nil]) (by rw [List.append_nil, hadded])
            rw [List.append_nil] at hoperator
            exact hoperator
      · rw [nextFrom, take_of_fails hfails]
        have hproblem : Coming skip before (line :: rest)
            (some (.error (.unread ((before ++ []).length + 1) f)))
            (standing skip (before ++ []) []) :=
          .problem rfl (by rw [List.append_nil]) hfails
        rw [List.append_nil] at hproblem
        exact hproblem

/-! ## Where a scan can stand -/

/-- Where a scan of lines can stand, and what it has delivered until then. -/
inductive Reached (lines : List Line) (skip : Nat) : List Item → Scan → Prop
  /-- It has read texts and goes on with the lines after them, of which there may be none. -/
  | going {texts : List Text} {rest : List Line} (hlines : lines = texts.map lineOf ++ rest) :
      Reached lines skip ((operatorsOf (texts.drop skip)).map .ok) (standing skip texts rest)
  /-- It has read texts and met a line that holds none. -/
  | failed {texts : List Text} {line : Line} {rest : List Line} {f : Fault}
      (hlines : lines = texts.map lineOf ++ line :: rest) (hfails : Fails line f) :
      Reached lines skip
        ((operatorsOf (texts.drop skip)).map .ok ++ [.error (.unread (texts.length + 1) f)])
        (standing skip texts [])

section Reached

variable {lines : List Line} {skip : Nat} {items : List Item} {s : Scan}

theorem reached_start (lines : List Line) (skip : Nat) :
    Reached lines skip [] { lines, skip } := by
  have hstart : Reached lines skip ((operatorsOf (([] : List Text).drop skip)).map .ok)
      (standing skip [] lines) := .going rfl
  simpa [standing, operatorsOf] using hstart

/-- The step of the invariant: the next item leads from one point to another. -/
theorem reached_next (h : Reached lines skip items s) :
    Reached lines skip (items ++ s.next.1.toList) s.next.2 := by
  cases h with
  | failed hlines hfails =>
      rw [show (standing skip _ []).next = (none, standing skip _ []) from rfl]
      simpa using Reached.failed hlines hfails
  | @going texts rest hlines =>
      have hcoming : Coming skip texts rest (standing skip texts rest).next.1
          (standing skip texts rest).next.2 := coming_nextFrom skip texts rest
      generalize (standing skip texts rest).next.1 = item at hcoming ⊢
      generalize (standing skip texts rest).next.2 = after at hcoming ⊢
      cases hcoming with
      | @nothing passed hleft hpassed =>
          have hall : lines = (texts ++ passed).map lineOf ++ [] := by simp [hlines, hleft]
          have hgoing : Reached lines skip ((operatorsOf ((texts ++ passed).drop skip)).map .ok)
              (standing skip (texts ++ passed) []) := .going hall
          rw [hpassed] at hgoing
          simpa using hgoing
      | @operator passed text more op hleft hpassed hadded =>
          have hall : lines = (texts ++ passed ++ [text]).map lineOf ++ more := by
            simp [hlines, hleft]
          have hgoing : Reached lines skip
              ((operatorsOf ((texts ++ passed ++ [text]).drop skip)).map .ok)
              (standing skip (texts ++ passed ++ [text]) more) := .going hall
          rw [operatorsOf_drop_concat, hpassed, hadded] at hgoing
          simpa using hgoing
      | @problem passed line more f hleft hpassed hfails =>
          have hall : lines = (texts ++ passed).map lineOf ++ line :: more := by
            simp [hlines, hleft]
          have hfailed : Reached lines skip
              ((operatorsOf ((texts ++ passed).drop skip)).map .ok ++
                [.error (.unread ((texts ++ passed).length + 1) f)])
              (standing skip (texts ++ passed) []) := .failed hall hfails
          rw [hpassed] at hfailed
          simpa using hfailed

theorem reached_exhausts {more : List Item} {after : Scan} (hexhausts : Exhausts s more after)
    (h : Reached lines skip items s) : Reached lines skip (items ++ more) after := by
  induction hexhausts generalizing items with
  | done hnext =>
      have hlast := reached_next h
      rw [hnext] at hlast
      exact hlast
  | item hnext _ ih =>
      have hmid := reached_next h
      rw [hnext] at hmid
      have hafter := ih hmid
      simpa using hafter

theorem reached_reply (h : Reached lines skip items s) (call : Call) :
    Reached lines skip (items ++ (s.reply call).delivered) (s.reply call).after := by
  cases call with
  | next => exact reached_next h
  | searched => simpa [reply] using h
  | found => simpa [reply] using h
  | count =>
      have hexhausts : Exhausts s s.drain.1 s.drain.2 := (exhausts_iff_drain s _ _).mpr rfl
      exact reached_exhausts hexhausts h

theorem reached_serve (h : Reached lines skip items s) (calls : List Call) :
    Reached lines skip (items ++ (s.serve calls).delivered) (s.serve calls).after := by
  induction calls generalizing items s with
  | nil => simpa [serve] using h
  | cons call more ih =>
      have hlater := ih (reached_reply h call)
      simpa [serve] using hlater

end Reached

/-! ## What callers see -/

/-- What a scan answers that has nothing left. -/
def lastAnswer (s : Scan) : Call → Answer
  | .next => .item none
  | .searched => .number s.searched
  | .found => .number s.found
  | .count => .number 0

/-- A scan is over if no call brings anything any more: there is no next item, none are left, and
the counters stay as they are. -/
def IsOver (s : Scan) : Prop :=
  ∀ calls, s.serve calls = { answers := calls.map s.lastAnswer, delivered := [], after := s }

/-- What callers see of a scan of lines that has delivered items. -/
structure Sound (lines : List Line) (skip : Nat) (items : List Item) (s : Scan) : Prop where
  /-- The operators that were delivered are counted. -/
  found_eq : s.found = items.countP (·.isOk)
  /-- No more operators were found than lines were searched. -/
  found_le : s.found ≤ s.searched
  /-- All lines that were read are searched but for those that are skipped. -/
  searched_eq : s.searched = s.read - skip
  /-- The lines that were read are the first ones and hold texts; the lines that are left are the
  ones after them, unless the first of these has failed. -/
  read_eq : ∃ (texts : List Text) (rest : List Line),
    lines = texts.map lineOf ++ rest ∧ s.read = texts.length ∧
    (s.lines = rest ∨ s.lines = [] ∧ ∃ line more f, rest = line :: more ∧ Fails line f ∧
      items.getLast? = some (.error (.unread (s.read + 1) f)))
  /-- An operator comes from the last line that was read, and all lines after it are left. -/
  operator_next : ∀ op after, s.next = (some (.ok op), after) →
    skip < after.read ∧ after.lines = lines.drop after.read ∧
      ∃ text token, lines[after.read - 1]? = some (lineOf text) ∧
        Token.first? text = some token ∧ op = .ofToken token
  /-- What is counted are the items that asking for the next one would deliver. -/
  count_eq : ∃ more after, Exhausts s more after ∧
    s.reply .count = { answer := .number more.length, delivered := more, after }
  /-- At most one item tells a problem. -/
  problems_le : items.countP (fun item => !item.isOk) ≤ 1
  /-- After a problem the scan is over. -/
  over_of_problem : (∃ problem, .error problem ∈ items) → s.IsOver
  /-- After there was no next item the scan is over. -/
  over_of_nothing : s.next.1 = none → s.next.2.IsOver
  /-- After the items that are left were counted the scan is over. -/
  over_of_count : (s.reply .count).after.IsOver

theorem isOver_of_lines {s : Scan} (hlines : s.lines = []) : s.IsOver := by
  have hsame : { s with lines := [] } = s := by rw [← hlines]
  have hnext : s.next = (none, s) := by rw [next, hlines, nextFrom, hsame]
  have hdrain : s.drain = ([], s) := by rw [drain, hlines, drainFrom, hsame, List.reverse_nil]
  intro calls
  induction calls with
  | nil => rfl
  | cons call more ih =>
      have hreply : s.reply call = { answer := s.lastAnswer call, delivered := [], after := s } := by
        cases call with
        | next => simp [reply, hnext, lastAnswer]
        | searched => rfl
        | found => rfl
        | count => simp [reply, hdrain, lastAnswer]
      simp [serve, hreply, ih]

theorem lines_nextFrom_none {s after : Scan} {lines : List Line}
    (hnext : s.nextFrom lines = (none, after)) : after.lines = [] := by
  induction lines generalizing s with
  | nil =>
      rw [nextFrom, Prod.mk.injEq] at hnext
      rw [← hnext.2]
  | cons line rest ih =>
      rcases take_cases s line rest with ⟨p, htake⟩ | ⟨op, mid, htake, -⟩ | ⟨mid, htake, -⟩
      · simp [nextFrom, htake] at hnext
      · simp [nextFrom, htake] at hnext
      · simp only [nextFrom, htake] at hnext
        exact ih hnext

theorem lines_of_exhausts {s after : Scan} {items : List Item} (h : Exhausts s items after) :
    after.lines = [] := by
  induction h with
  | done hnext => exact lines_nextFrom_none hnext
  | item _ _ ih => exact ih

theorem countP_ok (ops : List Operator) :
    (ops.map (.ok : Operator → Item)).countP (·.isOk) = ops.length := by
  induction ops with
  | nil => rfl
  | cons op rest ih => rw [List.map_cons, List.countP_cons_of_pos rfl, ih, List.length_cons]

theorem countP_not_ok (ops : List Operator) :
    (ops.map (.ok : Operator → Item)).countP (fun item => !item.isOk) = 0 := by
  have hnone : ∀ item ∈ ops.map (.ok : Operator → Item), ¬ (!item.isOk) = true := by
    intro item hitem
    obtain ⟨op, -, rfl⟩ := List.mem_map.mp hitem
    exact fun hnot => Bool.noConfusion hnot
  exact List.countP_eq_zero.mpr hnone

namespace Reached

variable {lines : List Line} {skip : Nat} {items : List Item} {s : Scan}

theorem found_eq (h : Reached lines skip items s) : s.found = items.countP (·.isOk) := by
  cases h with
  | going hlines => exact (countP_ok _).symm
  | failed hlines hfails =>
      rw [List.countP_append, countP_ok]
      rfl

theorem problems_le (h : Reached lines skip items s) :
    items.countP (fun item => !item.isOk) ≤ 1 := by
  cases h with
  | going hlines =>
      rw [countP_not_ok]
      exact Nat.zero_le 1
  | failed hlines hfails =>
      rw [List.countP_append, countP_not_ok]
      exact Nat.le_refl 1

theorem found_le (h : Reached lines skip items s) : s.found ≤ s.searched := by
  have hle : ∀ texts : List Text,
      (operatorsOf (texts.drop skip)).length ≤ texts.length - skip := by
    intro texts
    rw [← List.length_drop]
    exact length_operatorsOf_le _
  cases h with
  | going hlines => exact hle _
  | failed hlines hfails => exact hle _

theorem searched_eq (h : Reached lines skip items s) : s.searched = s.read - skip := by
  cases h with
  | going hlines => rfl
  | failed hlines hfails => rfl

/-- A problem among the items is the last of them, and nothing is left then. -/
theorem lines_of_problem (h : Reached lines skip items s)
    (hproblem : ∃ problem, .error problem ∈ items) : s.lines = [] := by
  cases h with
  | failed hlines hfails => rfl
  | going hlines =>
      obtain ⟨problem, hmem⟩ := hproblem
      obtain ⟨op, -, hop⟩ := List.mem_map.mp hmem
      cases hop

/-- An operator that comes next comes from the last line that is read for it. -/
theorem operator_next (h : Reached lines skip items s) {op : Operator} {after : Scan}
    (hnext : s.next = (some (.ok op), after)) :
    skip < after.read ∧ after.lines = lines.drop after.read ∧
      ∃ text token, lines[after.read - 1]? = some (lineOf text) ∧
        Token.first? text = some token ∧ op = .ofToken token := by
  cases h with
  | failed hlines hfails => cases hnext
  | @going texts rest hlines =>
      have hcoming : Coming skip texts rest (standing skip texts rest).next.1
          (standing skip texts rest).next.2 := coming_nextFrom skip texts rest
      rw [hnext] at hcoming
      dsimp only at hcoming
      generalize hitem : some (Except.ok op) = item at hcoming
      cases hcoming with
      | nothing hleft hpassed => cases hitem
      | problem hleft hpassed hfails => cases hitem
      | @operator passed text more op' hleft hpassed hadded =>
          cases hitem
          -- the lines up to the one of the operator, and what is left after it
          have hall : lines = (texts ++ passed).map lineOf ++ lineOf text :: more := by
            simp [hlines, hleft]
          have hread : (standing skip (texts ++ passed ++ [text]) more).read =
              ((texts ++ passed).map lineOf).length + 1 := by
            simp [standing, Nat.add_assoc]
          unfold added? at hadded
          split at hadded
          · cases hadded
          · next hskip =>
              obtain ⟨token, htoken, hop⟩ := Option.map_eq_some_iff.mp hadded
              rw [hread, hall]
              refine ⟨?_, ?_, text, token, ?_, htoken, hop.symm⟩
              · rw [List.length_map]
                omega
              · rw [List.drop_append]
                simp [standing]
              · rw [Nat.add_sub_cancel, List.getElem?_append_right (Nat.le_refl _), Nat.sub_self]
                rfl

end Reached

theorem sound_of_reached {lines : List Line} {skip : Nat} {items : List Item} {s : Scan}
    (h : Reached lines skip items s) : Sound lines skip items s := by
  have hexhausts : Exhausts s s.drain.1 s.drain.2 := (exhausts_iff_drain s _ _).mpr rfl
  exact
    { found_eq := h.found_eq
      found_le := h.found_le
      searched_eq := h.searched_eq
      read_eq := by
        cases h with
        | going hlines => exact ⟨_, _, hlines, rfl, .inl rfl⟩
        | failed hlines hfails =>
            refine ⟨_, _, hlines, rfl, .inr ⟨rfl, _, _, _, rfl, hfails, ?_⟩⟩
            exact List.getLast?_concat
      operator_next := fun op after hnext => h.operator_next hnext
      count_eq := ⟨_, _, hexhausts, rfl⟩
      problems_le := h.problems_le
      over_of_problem := fun hproblem => isOver_of_lines (h.lines_of_problem hproblem)
      over_of_nothing := by
        intro hnothing
        have hnone : s.nextFrom s.lines = (none, s.next.2) := Prod.ext hnothing rfl
        exact isOver_of_lines (lines_nextFrom_none hnone)
      over_of_count := isOver_of_lines (lines_of_exhausts hexhausts) }

/-- **After any calls on a scan** of a document in pieces, callers see what they should. -/
theorem sound_serve (pieces : List Piece) (skip : Nat) (calls : List Call) :
    Sound (linesOf pieces) skip ((ofPieces pieces skip).serve calls).delivered
      ((ofPieces pieces skip).serve calls).after := by
  have hreached := reached_serve (reached_start (linesOf pieces) skip) calls
  rw [List.nil_append] at hreached
  exact sound_of_reached hreached

/-- A line that is skipped, one with an operator, one without and one that is not UTF-8. -/
example :
    ((ofBytes (Text.Utf8.encode "`a`\n`v128.or`\nx\n".toList ++ [0xFF]) 1).serve
      [.next, .searched, .count, .searched, .next]).answers =
      [.item (some (.ok (.ofToken "v128.or".toList))), .number 1, .number 1, .number 2, .item none] :=
  rfl

end OperatorNames.Scan
