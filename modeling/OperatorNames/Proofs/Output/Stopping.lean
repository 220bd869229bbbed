import OperatorNames.Output
import OperatorNames.Problem

/-!
# Where an emission stops

An emission goes on as long as an item *passes* (`Passes`): it is an operator, its line still fits
into the writer, and the flush after it is not the refused one.  What has been written up to some
item is what a single write of all lines up to it would have left behind (`Writer.write_append`,
`emit_of_passes`), so that the first item that does not pass settles everything: the problem, the
octets, the flushes and the items taken (`emit_stops`).
-/

namespace OperatorNames

/-! ## Writers that have taken nothing yet -/

namespace Writer

/-- Octets that are written in two parts leave the writer as they do in one. -/
theorem write_append (w : Writer) (a b : Bytes) :
    w.write (a ++ b) =
      match w.write a with
      | (.ok (), written) => written.write b
      | refused => refused := by
  unfold write room
  cases hcapacity : w.capacity with
  | none => simp
  | some n =>
      dsimp only [Option.map_some]
      by_cases hfirst : a.length ≤ n - w.taken.length
      · -- the second part finds as much less room as the first one takes
        have hroom : n - (w.taken ++ a).length = n - w.taken.length - a.length := by
          rw [List.length_append]
          omega
        have hfits : (a ++ b).length ≤ n - w.taken.length ↔
            b.length ≤ n - w.taken.length - a.length := by
          rw [List.length_append]
          omega
        have htake : (a ++ b).take (n - w.taken.length) =
            a ++ b.take (n - w.taken.length - a.length) := by
          rw [List.take_append, List.take_of_length_le hfirst]
        simp only [if_pos hfirst, Option.map_some, hroom, hfits, htake, List.append_assoc,
          overflow]
      · have hlong : ¬ (a ++ b).length ≤ n - w.taken.length := by
          rw [List.length_append]
          omega
        have htake : (a ++ b).take (n - w.taken.length) = a.take (n - w.taken.length) :=
          List.take_append_of_le_length (by omega)
        rw [if_neg hfirst, if_neg hlong, htake]

/-- A writer takes no more than this in all. -/
def Holds (w : Writer) (b : Bytes) : Prop :=
  ∀ n, w.capacity = some n → b.length ≤ n

instance (w : Writer) (b : Bytes) : Decidable (w.Holds b) :=
  inferInstanceAs (Decidable (∀ n ∈ w.capacity, b.length ≤ n))

/-- A writer after it has taken some octets and been flushed some times. -/
def after (w : Writer) (taken : Bytes) (flushes : Nat) : Writer :=
  { w with taken, flushes }

theorem write_of_holds {w : Writer} {b : Bytes} (hb : w.Holds b) (flushes : Nat) :
    (w.after [] flushes).write b = (.ok (), w.after b flushes) := by
  unfold write room after
  cases hcapacity : w.capacity with
  | none => rfl
  | some n =>
      show (if b.length ≤ n then _ else _) = _
      rw [if_pos (hb n hcapacity)]
      rfl

theorem write_of_capacity_lt {w : Writer} {b : Bytes} {n : Nat} (hcapacity : w.capacity = some n)
    (hb : n < b.length) (flushes : Nat) :
    (w.after [] flushes).write b = (.error w.overflow, w.after (b.take n) flushes) := by
  unfold write room after
  rw [hcapacity]
  show (if b.length ≤ n then _ else _) = _
  rw [if_neg (Nat.not_le.mpr hb)]
  rfl

/-- Going on to write after octets that fit is writing all of them at once. -/
theorem after_write {w : Writer} {a : Bytes} (ha : w.Holds a) (b : Bytes) (flushes : Nat) :
    (w.after a flushes).write b = (w.after [] flushes).write (a ++ b) := by
  rw [write_append, write_of_holds ha]

theorem flush_after (w : Writer) (taken : Bytes) (flushes : Nat) :
    (w.after taken flushes).flush =
      (if w.refusedFlush = some (flushes + 1) then .error flushRefused else .ok (),
        w.after taken (flushes + 1)) := by
  unfold flush after
  dsimp only
  split <;> rfl

end Writer

/-! ## Items that pass -/

/-- The lines of the operators among items, one after the other. -/
def Style.lines (style : Style) (items : List Item) : Bytes :=
  (items.filterMap Except.toOption).flatMap style.line

/-- An item, counted from zero, that does not stop an emission which has come to it. -/
structure Passes (style : Style) (w : Writer) (items : List Item) (i : Nat) : Prop where
  /-- The item is an operator. -/
  operator : ∃ op, items[i]? = some (.ok op)
  /-- The writer holds the lines up to that of the item. -/
  holds : w.Holds (style.lines (items.take (i + 1)))
  /-- The flush after the line is done. -/
  flushed : w.refusedFlush ≠ some (i + 1)

instance (style : Style) (w : Writer) (items : List Item) (i : Nat) :
    Decidable (Passes style w items i) :=
  match hitem : items[i]? with
  | some (.ok op) =>
    decidable_of_iff
      (w.Holds (style.lines (items.take (i + 1))) ∧ w.refusedFlush ≠ some (i + 1))
      ⟨fun h => ⟨⟨op, hitem⟩, h.1, h.2⟩, fun h => ⟨h.holds, h.flushed⟩⟩
  | some (.error _) => isFalse fun h => by
    obtain ⟨op, hop⟩ := h.operator
    cases hitem.symm.trans hop
  | none => isFalse fun h => by
    obtain ⟨op, hop⟩ := h.operator
    cases hitem.symm.trans hop

variable {style : Style} {w : Writer} {items : List Item} {i : Nat} {op : Operator}

theorem Style.lines_take_prefix (style : Style) (items : List Item) (n : Nat) :
    style.lines (items.take n) <+: style.lines items := by
  refine ⟨style.lines (items.drop n), ?_⟩
  unfold Style.lines
  rw [← List.flatMap_append, ← List.filterMap_append, List.take_append_drop]

theorem Style.lines_take_succ (hitem : items[i]? = some (.ok op)) :
    style.lines (items.take (i + 1)) = style.lines (items.take i) ++ style.line op := by
  have htake : items.take (i + 1) = items.take i ++ [.ok op] := by
    rw [List.take_add_one, hitem]
    rfl
  unfold Style.lines
  rw [htake, List.filterMap_append, List.flatMap_append]
  show _ ++ (style.line op ++ []) = _
  rw [List.append_nil]

/-- What all items before some item have left in the writer fits into it. -/
theorem Passes.holds_take (hpass : ∀ j < i, Passes style w items j) :
    w.Holds (style.lines (items.take i)) := by
  cases i with
  | zero =>
      intro n _
      rw [List.take_zero]
      exact Nat.zero_le n
  | succ j => exact (hpass j (Nat.lt_succ_self j)).holds

theorem drop_eq_cons {item : Item} (hitem : items[i]? = some item) :
    items.drop i = item :: items.drop (i + 1) := by
  obtain ⟨hlength, hget⟩ := List.getElem?_eq_some_iff.mp hitem
  rw [List.drop_eq_getElem_cons hlength, hget]

/-- The line of an operator is written after the lines before it as if all were one. -/
theorem write_line (hpass : ∀ j < i, Passes style w items j)
    (hitem : items[i]? = some (.ok op)) :
    (w.after (style.lines (items.take i)) i).write (style.line op) =
      (w.after [] i).write (style.lines (items.take (i + 1))) := by
  rw [Writer.after_write (Passes.holds_take hpass), Style.lines_take_succ hitem]

/-- The emission of items after the first few of them have been written. -/
def emitAfter (style : Style) (w : Writer) (items : List Item) (i : Nat) : Emission :=
  emitFrom style (w.after (style.lines (items.take i)) i) i (items.drop i)

/-- An item that passes adds its line and one flush. -/
theorem emitAfter_succ (hpass : ∀ j < i, Passes style w items j)
    (hitem : Passes style w items i) :
    emitAfter style w items i = emitAfter style w items (i + 1) := by
  obtain ⟨op, hop⟩ := hitem.operator
  unfold emitAfter
  rw [drop_eq_cons hop, emitFrom, write_line hpass hop, Writer.write_of_holds hitem.holds]
  dsimp only
  rw [Writer.flush_after, if_neg hitem.flushed]

/-- Items that pass leave their lines and a flush for each. -/
theorem emit_of_passes (hpass : ∀ j < i, Passes style w items j) :
    emit style (w.after [] 0) items = emitAfter style w items i := by
  induction i with
  | zero => rfl
  | succ i ih =>
      have hbefore : ∀ j < i, Passes style w items j := fun j hj => hpass j (Nat.lt_succ_of_lt hj)
      rw [ih hbefore, emitAfter_succ hbefore (hpass i (Nat.lt_succ_self i))]

/-! ## The item that does not pass -/

theorem emit_of_all_pass (hpass : ∀ j < items.length, Passes style w items j) :
    emit style (w.after [] 0) items =
      { result := .ok items.length
        writer := w.after (style.lines items) items.length
        pulled := items.length } := by
  rw [emit_of_passes hpass, emitAfter, List.take_length, List.drop_length, emitFrom]

theorem emit_of_error {p : ScanProblem} (hpass : ∀ j < i, Passes style w items j)
    (hitem : items[i]? = some (.error p)) :
    emit style (w.after [] 0) items =
      { result := .error (.scanning p)
        writer := w.after (style.lines (items.take i)) i
        pulled := i + 1 } := by
  rw [emit_of_passes hpass, emitAfter, drop_eq_cons hitem, emitFrom]

theorem emit_of_capacity_lt {n : Nat} (hpass : ∀ j < i, Passes style w items j)
    (hitem : items[i]? = some (.ok op)) (hcapacity : w.capacity = some n)
    (hlong : n < (style.lines (items.take (i + 1))).length) :
    emit style (w.after [] 0) items =
      { result := .error (.writing w.overflow)
        writer := w.after ((style.lines (items.take (i + 1))).take n) i
        pulled := i + 1 } := by
  rw [emit_of_passes hpass, emitAfter, drop_eq_cons hitem, emitFrom, write_line hpass hitem,
    Writer.write_of_capacity_lt hcapacity hlong]

theorem emit_of_refusedFlush (hpass : ∀ j < i, Passes style w items j)
    (hitem : items[i]? = some (.ok op)) (hholds : w.Holds (style.lines (items.take (i + 1))))
    (hrefused : w.refusedFlush = some (i + 1)) :
    emit style (w.after [] 0) items =
      { result := .error (.flushing Writer.flushRefused)
        writer := w.after (style.lines (items.take (i + 1))) (i + 1)
        pulled := i + 1 } := by
  rw [emit_of_passes hpass, emitAfter, drop_eq_cons hitem, emitFrom, write_line hpass hitem,
    Writer.write_of_holds hholds]
  dsimp only
  rw [Writer.flush_after, if_pos hrefused]

/-- Either all of the first few items pass, or there is a first one that does not. -/
theorem passes_or_first (style : Style) (w : Writer) (items : List Item) (n : Nat) :
    (∀ j < n, Passes style w items j) ∨
      ∃ i < n, (∀ j < i, Passes style w items j) ∧ ¬ Passes style w items i := by
  induction n with
  | zero => exact .inl fun j hj => absurd hj (Nat.not_lt_zero j)
  | succ n ih =>
      obtain hall | ⟨i, hi, hfirst⟩ := ih
      · by_cases hpass : Passes style w items n
        · left
          intro j hj
          obtain hlt | rfl := Nat.lt_succ_iff_lt_or_eq.mp hj
          · exact hall j hlt
          · exact hpass
        · exact .inr ⟨n, Nat.lt_succ_self n, hall, hpass⟩
      · exact .inr ⟨i, Nat.lt_succ_of_lt hi, hfirst⟩

/-- Whatever stops an emission, the octets written begin the lines of the operators. -/
theorem taken_emit_prefix (style : Style) (w : Writer) (items : List Item) :
    (emit style (w.after [] 0) items).writer.taken <+: style.lines items := by
  obtain hall | ⟨i, hi, hpass, hstop⟩ := passes_or_first style w items items.length
  · rw [emit_of_all_pass hall]
    exact List.prefix_refl _
  · cases hitem : items[i]? with
    | none => exact absurd (List.getElem?_eq_none_iff.mp hitem) (Nat.not_le.mpr hi)
    | some item =>
        cases item with
        | error p =>
            rw [emit_of_error hpass hitem]
            exact style.lines_take_prefix items i
        | ok op =>
            by_cases hholds : w.Holds (style.lines (items.take (i + 1)))
            · -- only the flush is left to stop it
              have hrefused : w.refusedFlush = some (i + 1) :=
                Classical.byContradiction fun hflushed => hstop ⟨⟨op, hitem⟩, hholds, hflushed⟩
              rw [emit_of_refusedFlush hpass hitem hholds hrefused]
              exact style.lines_take_prefix items (i + 1)
            · obtain ⟨n, hn⟩ := Classical.not_forall.mp hholds
              obtain ⟨hcapacity, hlong⟩ := Classical.not_imp.mp hn
              rw [emit_of_capacity_lt hpass hitem hcapacity (Nat.not_le.mp hlong)]
              exact (List.take_prefix n _).trans (style.lines_take_prefix items (i + 1))

/-- **Where an emission stops.**  Items are written out as long as they pass; if all of them do, each
has its line and its flush.  The first one that does not is an item that is no operator, or else its
line is more than the writer takes, or else its flush is refused: the problem says which, the lines
before it stay written, a line too long is cut where the writer is full, and nothing is taken after
it.  The report of a full writer is final here; to one that says that it was interrupted, the octets
would be offered again. -/
theorem emit_stops (style : Style) (capacity : Option Nat) (full : Option Fault)
    (refusedFlush : Option Nat) (items : List Item) :
    let w : Writer := { capacity, full, refusedFlush }
    ((∀ i < items.length, Passes style w items i) →
      emit style w items =
        { result := .ok items.length
          writer := w.after (style.lines items) items.length
          pulled := items.length }) ∧
    (∀ i, (∀ j < i, Passes style w items j) →
      (∀ p, items[i]? = some (.error p) →
        emit style w items =
          { result := .error (.scanning p)
            writer := w.after (style.lines (items.take i)) i
            pulled := i + 1 } ∧
        (Problem.ofEmission (.scanning p)).chain = "scan document".toList :: p.chain) ∧
      ∀ op, items[i]? = some (.ok op) →
        (∀ n, capacity = some n → n < (style.lines (items.take (i + 1))).length →
          emit style w items =
            { result := .error (.writing (full.getD .shortWrite))
              writer := w.after ((style.lines (items.take (i + 1))).take n) i
              pulled := i + 1 } ∧
          (Problem.ofEmission (.writing (full.getD .shortWrite))).chain =
            ["write output".toList, (full.getD .shortWrite).text]) ∧
        (w.Holds (style.lines (items.take (i + 1))) → refusedFlush = some (i + 1) →
          emit style w items =
            { result := .error (.flushing Writer.flushRefused)
              writer := w.after (style.lines (items.take (i + 1))) (i + 1)
              pulled := i + 1 } ∧
          (Problem.ofEmission (.flushing Writer.flushRefused)).chain =
            ["flush output".toList, Writer.flushRefused.text])) ∧
    (emit style w items).writer.taken <+: style.lines items := by
  intro w
  refine ⟨emit_of_all_pass, ?_, taken_emit_prefix style w items⟩
  intro i hpass
  refine ⟨fun p hitem => ⟨emit_of_error hpass hitem, rfl⟩, fun op hitem => ⟨?_, ?_⟩⟩
  · intro n hcapacity hlong
    exact ⟨emit_of_capacity_lt hpass hitem hcapacity hlong, rfl⟩
  · intro hholds hrefused
    exact ⟨emit_of_refusedFlush hpass hitem hholds hrefused, rfl⟩

/-- Two operators, and a line that cannot be read. -/
def brokenItems : List Item :=
  [.ok (.ofToken "a".toList), .ok (.ofToken "b.c".toList), .error (.unread 3 .notUtf8)]

/-- A writer that is full between the second line and its line feed, one that refuses the second
flush, one without limits, and the same for the operators alone. -/
theorem emit_stops_brokenItems :
    emit .listEntry { capacity := some 10 } brokenItems =
      { result := .error (.writing .shortWrite)
        writer :=
          { capacity := some 10, taken := Text.Utf8.encode "\"A\",\n\"BC\",".toList, flushes := 1 }
        pulled := 2 } ∧
    emit .listEntry { refusedFlush := some 2 } brokenItems =
      { result := .error (.flushing Writer.flushRefused)
        writer :=
          { refusedFlush := some 2, taken := Text.Utf8.encode "\"A\",\n\"BC\",\n".toList
            flushes := 2 }
        pulled := 2 } ∧
    emit .listEntry {} brokenItems =
      { result := .error (.scanning (.unread 3 .notUtf8))
        writer := { taken := Text.Utf8.encode "\"A\",\n\"BC\",\n".toList, flushes := 2 }
        pulled := 3 } ∧
    emit .listEntry {} (brokenItems.take 2) =
      { result := .ok 2
        writer := { taken := Text.Utf8.encode "\"A\",\n\"BC\",\n".toList, flushes := 2 }
        pulled := 2 } := by
  obtain ⟨-, hfull, -⟩ := emit_stops .listEntry (some 10) none none brokenItems
  obtain ⟨-, hrefused, -⟩ := emit_stops .listEntry none none (some 2) brokenItems
  obtain ⟨-, hbroken, -⟩ := emit_stops .listEntry none none none brokenItems
  obtain ⟨hwhole, -, -⟩ := emit_stops .listEntry none none none (brokenItems.take 2)
  refine ⟨?_, ?_, ?_, ?_⟩
  · exact (((hfull 1 (by decide)).2 _ rfl).1 10 rfl (by decide)).1
  · exact (((hrefused 1 (by decide)).2 _ rfl).2 (by decide) rfl).1
  · exact ((hbroken 2 (by decide)).1 _ rfl).1
  · exact hwhole (by decide)

end OperatorNames
