import OperatorNames.Document.Scan

/-!
# Exhausting a scan

A scan is exhausted by asking for the next item until there is none (`Exhausts`).  `Scan.drain`
does the same in one pass over the lines that are left, and `exhausts_iff_drain` says so: there is
exactly one way to exhaust a scan, and it delivers what `drain` delivers and leaves what `drain`
leaves.
-/

namespace OperatorNames.Scan

open Document

/-- Asking a scan for the next item until there is none delivers the items and leaves the last
scan. -/
inductive Exhausts : Scan → List Item → Scan → Prop
  | done {s after : Scan} (hnext : s.next = (none, after)) : Exhausts s [] after
  | item {s mid after : Scan} {item : Item} {items : List Item}
      (hnext : s.next = (some item, mid)) (hrest : Exhausts mid items after) :
      Exhausts s (item :: items) after

/-! ## What one line does -/

theorem take_failure (s : Scan) (f : Fault) (rest : List Line) :
    s.take (.error f) rest = (some (.error (.unread (s.read + 1) f)), { s with lines := [] }) :=
  rfl

theorem take_unreadable (s : Scan) {octets : Bytes} (rest : List Line)
    (htext : Text.Utf8.decode octets = none) :
    s.take (.ok octets) rest =
      (some (.error (.unread (s.read + 1) .notUtf8)), { s with lines := [] }) := by
  simp [take, htext]

theorem take_header (s : Scan) {octets : Bytes} {text : Text} (rest : List Line)
    (htext : Text.Utf8.decode octets = some text) (hskip : s.read + 1 ≤ s.skip) :
    s.take (.ok octets) rest = (none, { s with lines := rest, read := s.read + 1 }) := by
  simp [take, htext, hskip]

theorem take_plain (s : Scan) {octets : Bytes} {text : Text} (rest : List Line)
    (htext : Text.Utf8.decode octets = some text) (hskip : s.skip < s.read + 1)
    (htoken : Token.first? text = none) :
    s.take (.ok octets) rest =
      (none, { s with lines := rest, read := s.read + 1, searched := s.searched + 1 }) := by
  simp [take, htext, Nat.not_le.mpr hskip, htoken]

theorem take_token (s : Scan) {octets : Bytes} {text token : Text} (rest : List Line)
    (htext : Text.Utf8.decode octets = some text) (hskip : s.skip < s.read + 1)
    (htoken : Token.first? text = some token) :
    s.take (.ok octets) rest =
      (some (.ok (.ofToken token)),
        { s with lines := rest, read := s.read + 1, searched := s.searched + 1
                 found := s.found + 1 }) := by
  simp [take, htext, Nat.not_le.mpr hskip, htoken]

/-- A line fails and ends the scan, or gives an operator or nothing and the lines after it are
left. -/
theorem take_cases (s : Scan) (line : Line) (rest : List Line) :
    (∃ problem, s.take line rest = (some (.error problem), { s with lines := [] })) ∨
    (∃ op after, s.take line rest = (some (.ok op), after) ∧ after.lines = rest) ∨
    (∃ after, s.take line rest = (none, after) ∧ after.lines = rest) := by
  cases line with
  | error f => exact .inl ⟨_, take_failure s f rest⟩
  | ok octets =>
      cases htext : Text.Utf8.decode octets with
      | none => exact .inl ⟨_, take_unreadable s rest htext⟩
      | some text =>
          by_cases hskip : s.read + 1 ≤ s.skip
          · exact .inr (.inr ⟨_, take_header s rest htext hskip, rfl⟩)
          · have hskip : s.skip < s.read + 1 := by omega
            cases htoken : Token.first? text with
            | none => exact .inr (.inr ⟨_, take_plain s rest htext hskip htoken, rfl⟩)
            | some token => exact .inr (.inl ⟨_, _, take_token s rest htext hskip htoken, rfl⟩)

/-! ## One item and the items after it -/

theorem drainFrom_of_nextFrom_none {s after : Scan} {lines : List Line} (items : List Item)
    (hnext : s.nextFrom lines = (none, after)) :
    s.drainFrom items lines = (items.reverse, after) := by
  induction lines generalizing s with
  | nil =>
      simp only [nextFrom, Prod.mk.injEq, true_and] at hnext
      simp [drainFrom, hnext]
  | cons line rest ih =>
      rcases take_cases s line rest with ⟨p, htake⟩ | ⟨op, mid, htake, -⟩ | ⟨mid, htake, -⟩
      · simp [nextFrom, htake] at hnext
      · simp [nextFrom, htake] at hnext
      · simp only [nextFrom, htake] at hnext
        simp only [drainFrom, htake]
        exact ih hnext

theorem drainFrom_of_nextFrom_ok {s mid : Scan} {op : Operator} {lines : List Line}
    (items : List Item) (hnext : s.nextFrom lines = (some (.ok op), mid)) :
    s.drainFrom items lines = mid.drainFrom (.ok op :: items) mid.lines := by
  induction lines generalizing s with
  | nil => simp [nextFrom] at hnext
  | cons line rest ih =>
      rcases take_cases s line rest with ⟨p, htake⟩ | ⟨op', after, htake, hlines⟩ | ⟨after, htake, -⟩
      · simp [nextFrom, htake] at hnext
      · simp only [nextFrom, htake, Prod.mk.injEq, Option.some.injEq, Except.ok.injEq] at hnext
        obtain ⟨rfl, rfl⟩ := hnext
        simp only [drainFrom, htake, hlines]
      · simp only [nextFrom, htake] at hnext
        simp only [drainFrom, htake]
        exact ih hnext

/-- After a failed line nothing is left: every further request gives nothing and changes nothing. -/
theorem drainFrom_of_nextFrom_error {s mid : Scan} {p : ScanProblem} {lines : List Line}
    (items : List Item) (hnext : s.nextFrom lines = (some (.error p), mid)) :
    s.drainFrom items lines = ((.error p :: items).reverse, mid) ∧ mid.next = (none, mid) := by
  induction lines generalizing s with
  | nil => simp [nextFrom] at hnext
  | cons line rest ih =>
      rcases take_cases s line rest with ⟨p', htake⟩ | ⟨op, after, htake, -⟩ | ⟨after, htake, -⟩
      · simp only [nextFrom, htake, Prod.mk.injEq, Option.some.injEq, Except.error.injEq] at hnext
        obtain ⟨rfl, rfl⟩ := hnext
        refine ⟨?_, rfl⟩
        simp only [drainFrom, htake]
      · simp [nextFrom, htake] at hnext
      · simp only [nextFrom, htake] at hnext
        simp only [drainFrom, htake]
        exact ih hnext

theorem drainFrom_of_exhausts {s after : Scan} {items : List Item} (h : Exhausts s items after)
    (before : List Item) : s.drainFrom before s.lines = (before.reverse ++ items, after) := by
  induction h generalizing before with
  | done hnext => simpa using drainFrom_of_nextFrom_none before hnext
  | @item s mid after item items hnext hrest ih =>
      cases item with
      | ok op =>
          rw [drainFrom_of_nextFrom_ok before hnext, ih]
          simp
      | error p =>
          obtain ⟨hdrain, hlast⟩ := drainFrom_of_nextFrom_error before hnext
          -- nothing comes after a failed line, so that the rest of the items is empty
          cases hrest with
          | done hnone =>
              rw [hlast] at hnone
              cases hnone
              simpa using hdrain
          | item hsome _ =>
              rw [hlast] at hsome
              cases hsome

/-! ## Every scan can be exhausted -/

theorem length_lines_of_nextFrom {s mid : Scan} {item : Item} {lines : List Line}
    (hnext : s.nextFrom lines = (some item, mid)) : mid.lines.length < lines.length := by
  induction lines generalizing s with
  | nil => simp [nextFrom] at hnext
  | cons line rest ih =>
      rcases take_cases s line rest with ⟨p, htake⟩ | ⟨op, after, htake, hlines⟩ | ⟨after, htake, -⟩
      · simp only [nextFrom, htake, Prod.mk.injEq, Option.some.injEq] at hnext
        obtain ⟨-, rfl⟩ := hnext
        simp
      · simp only [nextFrom, htake, Prod.mk.injEq, Option.some.injEq] at hnext
        obtain ⟨-, rfl⟩ := hnext
        simp [hlines]
      -- the line gave nothing; the item came from a later one
      · simp only [nextFrom, htake] at hnext
        exact Nat.lt_succ_of_lt (ih hnext)

theorem exists_exhausts (s : Scan) : ∃ items after, Exhausts s items after := by
  cases hnext : s.next with
  | mk item mid =>
      cases item with
      | none => exact ⟨[], mid, .done hnext⟩
      | some item =>
          have hshorter : mid.lines.length < s.lines.length := length_lines_of_nextFrom hnext
          obtain ⟨items, after, hrest⟩ := exists_exhausts mid
          exact ⟨item :: items, after, .item hnext hrest⟩
termination_by s.lines.length

/-- **A scan is exhausted in exactly one way**, and what is delivered and left is what draining it
gives. -/
theorem exhausts_iff_drain (s : Scan) (items : List Item) (after : Scan) :
    Exhausts s items after ↔ s.drain = (items, after) := by
  constructor
  · intro h
    simpa [drain] using drainFrom_of_exhausts h []
  · intro hdrain
    -- there is a way to exhaust the scan, and every way gives what draining gives
    obtain ⟨items', after', h⟩ := exists_exhausts s
    have hdrain' := drainFrom_of_exhausts h []
    rw [List.reverse_nil, List.nil_append] at hdrain'
    rw [drain, hdrain'] at hdrain
    cases hdrain
    exact h

end OperatorNames.Scan
