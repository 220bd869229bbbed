import OperatorNames.Proofs.Toml.Spelling.Scalars

/-!
# How values are written

Arrays and inline tables hold values, so their grammar is given over that of the values in them, and
`SpellsValue` closes the circle by the depth to which values nest.  In the same way a reader of arrays
and tables reads just what the grammar has if the reader of the values in them does (`Reader`), and
the reader of values does at each depth (`reader_value?`).
-/

namespace OperatorNames.Toml

open Text

section Grammar

variable (V : Text → Node → Prop)

/-- What stands in an array, up to and with its bracket.  A comma may stand after the last item. -/
inductive SpellsItems : Text → List Node → Prop
  | none {g : Text} (hg : Gap g) : SpellsItems (g ++ [']']) []
  | last {g w g' : Text} {item : Node} (hg : Gap g) (hw : V w item) (hg' : Gap g') :
      SpellsItems (g ++ (w ++ (g' ++ [']']))) [item]
  | more {g w g' v : Text} {item : Node} {items : List Node} (hg : Gap g) (hw : V w item)
      (hg' : Gap g') (hv : SpellsItems v items) :
      SpellsItems (g ++ (w ++ (g' ++ ',' :: v))) (item :: items)

/-- A key with its value. -/
inductive SpellsPair : Text → Pair → Prop
  | pair {k s w : Text} {path : List Key} {key : Key} {value : Node}
      (hk : SpellsKey deepest k path key) (hs : Spaces s) (hw : V w value) :
      SpellsPair (k ++ '=' :: (s ++ w)) { path, key, value }

/-- The pairs of an inline table that has any, up to and with its brace. -/
inductive SpellsInline : Text → List Pair → Prop
  | last {w s : Text} {pair : Pair} (hw : SpellsPair V w pair) (hs : Spaces s) :
      SpellsInline (w ++ (s ++ ['}'])) [pair]
  | more {w s v : Text} {pair : Pair} {pairs : List Pair} (hw : SpellsPair V w pair) (hs : Spaces s)
      (hv : SpellsInline v pairs) : SpellsInline (w ++ (s ++ ',' :: v)) (pair :: pairs)

/-- A value that holds others. -/
inductive SpellsHolder : Text → Node → Prop
  | array {v : Text} {items : List Node} (hv : SpellsItems V v items) :
      SpellsHolder ('[' :: v) (.array items .nowhere)
  | emptyTable {s : Text} (hs : Spaces s) :
      SpellsHolder ('{' :: (s ++ ['}'])) (.inlineTable [] .nowhere)
  | table {v : Text} {pairs : List Pair} {entries : Entries} (hv : SpellsInline V v pairs)
      (hentries : Entries.addPairs [] pairs = some entries) :
      SpellsHolder ('{' :: v) (.inlineTable entries .nowhere)

end Grammar

/-- A value of which the parts nest so deep at most. -/
def SpellsValue : (depth : Nat) → Text → Node → Prop
  | 0, w, node => ∃ value, SpellsScalar w value ∧ node = .scalar value .nowhere
  | depth + 1, w, node =>
    (∃ value, SpellsScalar w value ∧ node = .scalar value .nowhere) ∨
      SpellsHolder (SpellsValue depth) w node

/-- Whether a character may begin a value. -/
def beginsValue (c : Char) : Bool :=
  endsGap c && c ≠ ']'

/-- A reader reads just what the grammar has, where a value ends; the grammar has no places. -/
structure Reader (V : Text → Node → Prop) (read : Text → Option (Node × Text)) : Prop where
  /-- What the grammar has is read. -/
  reads : ∀ {w node rest}, V w node → Closes rest →
    ∃ placed, read (w ++ rest) = some (placed, rest) ∧ placed.unplaced = node
  /-- What is read is in the grammar. -/
  spelled : ∀ {t placed rest}, read t = some (placed, rest) →
    ∃ w, t = w ++ rest ∧ V w placed.unplaced
  /-- A value begins with a character that begins values. -/
  begins : ∀ {w node}, V w node → ∃ c more, w = c :: more ∧ beginsValue c = true

/-! ## What follows a value -/

theorem Gap.closes {g : Text} (hg : Gap g) {c : Char} (hc : closesValue c = true) (t : Text) :
    Closes (g ++ c :: t) := by
  cases hg with
  | spaces hs =>
      refine closes_append hs fun d hd => ?_
      cases hd
      exact hc
  | line hs hcomment hf hg =>
      simp only [List.append_assoc]
      exact closes_lineFeed hs hcomment hf _

theorem Spaces.closes {s : Text} (hs : Spaces s) {c : Char} (hc : closesValue c = true) (t : Text) :
    Closes (s ++ c :: t) :=
  Gap.closes (.spaces hs) hc t

theorem afterGap_mark (t : Text) : AfterGap (']' :: t) ∧ AfterGap (',' :: t) :=
  ⟨⟨_, _, rfl, rfl⟩, ⟨_, _, rfl, rfl⟩⟩

theorem isPlain_of_beginsValue {c : Char} (hc : beginsValue c = true) : isPlain c = true := by
  simp only [beginsValue, endsGap, Bool.and_eq_true] at hc
  exact hc.1.1.1

/-- What stands before a character that a comment could hold is a gap, if it is passed over. -/
theorem exists_gap_of_cons {fuel : Nat} {c : Char} {t rest : Text} (hc : isPlain c = true)
    (ht : Toml.afterGap fuel t = c :: rest) : ∃ g, Gap g ∧ t = g ++ c :: rest := by
  -- nothing that can be read goes on after a gap that does not end
  have hplain : ¬ BeginsNot isPlain (Toml.afterGap fuel t) := by
    rw [ht]
    intro hbegins
    have hnone : isPlain c = false := hbegins.of_cons
    rw [hc] at hnone
    cases hnone
  obtain ⟨g, hg, hwhole⟩ := (exists_gap fuel t).resolve_right hplain
  rw [ht] at hwhole
  exact ⟨g, hg, hwhole⟩

section Lists

variable {V : Text → Node → Prop} {read : Text → Option (Node × Text)} (hread : Reader V read)

include hread

theorem Reader.afterGap {w : Text} {node : Node} (hw : V w node) (t : Text) :
    AfterGap (w ++ t) := by
  obtain ⟨c, more, rfl, hc⟩ := hread.begins hw
  exact ⟨c, more ++ t, rfl, (Bool.and_eq_true_iff.mp hc).1⟩

theorem Reader.beginsNot {w : Text} {node : Node} (hw : V w node) {kind : Char → Bool}
    (hkind : ∀ c, beginsValue c = true → kind c = false) (t : Text) : BeginsNot kind (w ++ t) := by
  obtain ⟨c, more, rfl, hc⟩ := hread.begins hw
  exact beginsNot_cons (hkind c hc) _

theorem Reader.exists_gap {w t rest : Text} {node : Node} {fuel : Nat} (hw : V w node)
    (ht : Toml.afterGap fuel t = w ++ rest) : ∃ g, Gap g ∧ t = g ++ (w ++ rest) := by
  obtain ⟨c, more, rfl, hc⟩ := hread.begins hw
  exact exists_gap_of_cons (isPlain_of_beginsValue hc) ht

theorem Reader.ne_close {w : Text} {node : Node} (hw : V w node) (t after : Text) :
    w ++ t ≠ ']' :: after := by
  obtain ⟨c, more, rfl, hc⟩ := hread.begins hw
  rintro heq
  cases heq
  cases hc

/-! ## Arrays -/

omit hread in
theorem items?_close {t rest : Text} {fuel : Nat} (hclose : Toml.afterGap fuel t = ']' :: rest)
    (done : List Node) : items? read done (fuel + 1) t = some (done.reverse, rest) := by
  rw [items?, hclose]
  rfl

omit hread in
theorem items?_item {t : Text} {fuel : Nat} (hitem : ∀ rest, Toml.afterGap fuel t ≠ ']' :: rest)
    (done : List Node) :
    items? read done (fuel + 1) t = (read (Toml.afterGap fuel t)).bind fun found =>
      match Toml.afterGap fuel found.2 with
      | ']' :: rest => some ((found.1 :: done).reverse, rest)
      | ',' :: rest => items? read (found.1 :: done) fuel rest
      | _ => none := by
  rw [items?]
  split
  · next rest heq => exact absurd heq (hitem rest)
  · rfl

theorem Reader.items?_append {w : Text} {items : List Node} (hw : SpellsItems V w items)
    (done : List Node) (rest : Text) {fuel : Nat} (hfuel : w.length ≤ fuel) :
    ∃ placed, items? read done (fuel + 1) (w ++ rest) = some (done.reverse ++ placed, rest) ∧
      placed.map Node.unplaced = items := by
  induction hw generalizing done fuel with
  | @none g hg =>
      rw [List.length_append] at hfuel
      have hclose : Toml.afterGap fuel (g ++ ']' :: rest) = ']' :: rest :=
        afterGap_append hg (afterGap_mark rest).1 (by omega)
      refine ⟨[], ?_, rfl⟩
      rw [List.append_assoc, List.singleton_append, items?_close hclose, List.append_nil]
  | @last g w g' item hg hw hg' =>
      simp only [List.length_append, List.length_cons] at hfuel
      have hitem : Toml.afterGap fuel (g ++ (w ++ (g' ++ ']' :: rest))) =
          w ++ (g' ++ ']' :: rest) :=
        afterGap_append hg (hread.afterGap hw _) (by omega)
      have hclose : Toml.afterGap fuel (g' ++ ']' :: rest) = ']' :: rest :=
        afterGap_append hg' (afterGap_mark rest).1 (by omega)
      obtain ⟨placed, hplaced, hnode⟩ := hread.reads hw (hg'.closes (c := ']') rfl rest)
      refine ⟨[placed], ?_, by rw [List.map_singleton, hnode]⟩
      simp only [List.append_assoc, List.singleton_append]
      rw [items?_item (by rw [hitem]; exact hread.ne_close hw _), hitem, hplaced, Option.bind_some]
      dsimp only
      rw [hclose]
      show some ((placed :: done).reverse, rest) = _
      rw [List.reverse_cons]
  | @more g w g' v item items hg hw hg' hv ih =>
      simp only [List.length_append, List.length_cons] at hfuel
      have hitem : Toml.afterGap fuel (g ++ (w ++ (g' ++ ',' :: (v ++ rest)))) =
          w ++ (g' ++ ',' :: (v ++ rest)) :=
        afterGap_append hg (hread.afterGap hw _) (by omega)
      have hcomma : Toml.afterGap fuel (g' ++ ',' :: (v ++ rest)) = ',' :: (v ++ rest) :=
        afterGap_append hg' (afterGap_mark _).2 (by omega)
      obtain ⟨first, hfirst, hnode⟩ := hread.reads hw (hg'.closes (c := ',') rfl (v ++ rest))
      obtain ⟨fuel, rfl⟩ : ∃ less, fuel = less + 1 := ⟨fuel - 1, by omega⟩
      have hfits : v.length ≤ fuel := by omega
      obtain ⟨later, hlater, hnodes⟩ := ih (first :: done) hfits
      refine ⟨first :: later, ?_, by rw [List.map_cons, hnode, hnodes]⟩
      simp only [List.append_assoc, List.cons_append]
      rw [items?_item (by rw [hitem]; exact hread.ne_close hw _), hitem, hfirst, Option.bind_some]
      dsimp only
      rw [hcomma]
      show items? read (first :: done) (fuel + 1) (v ++ rest) = _
      rw [hlater, List.reverse_cons, ← List.append_cons]

theorem Reader.exists_spellsItems {done items : List Node} {fuel : Nat} {t rest : Text}
    (hitems : items? read done fuel t = some (items, rest)) :
    ∃ w more, t = w ++ rest ∧ items = done.reverse ++ more ∧
      SpellsItems V w (more.map Node.unplaced) := by
  induction fuel generalizing done t with
  | zero => cases hitems
  | succ fuel ih =>
      by_cases hclose : ∃ after, Toml.afterGap fuel t = ']' :: after
      · obtain ⟨after, hafter⟩ := hclose
        rw [items?_close hafter] at hitems
        cases hitems
        obtain ⟨g, hg, rfl⟩ := exists_gap_of_cons rfl hafter
        exact ⟨g ++ [']'], [], by simp, (List.append_nil _).symm, .none hg⟩
      · rw [items?_item fun after heq => hclose ⟨after, heq⟩] at hitems
        obtain ⟨⟨item, after⟩, hitem, hrest⟩ := Option.bind_eq_some_iff.mp hitems
        obtain ⟨w, hw, hspells⟩ := hread.spelled hitem
        obtain ⟨g, hg, rfl⟩ := hread.exists_gap hspells hw
        dsimp only at hrest
        split at hrest
        · next last hlast =>
            cases hrest
            obtain ⟨g', hg', rfl⟩ := exists_gap_of_cons rfl hlast
            refine ⟨g ++ (w ++ (g' ++ [']'])), [item], ?_, ?_, .last hg hspells hg'⟩
            · simp
            · rw [List.reverse_cons]
        · next last hlast =>
            obtain ⟨g', hg', rfl⟩ := exists_gap_of_cons rfl hlast
            obtain ⟨v, more, rfl, heq, hmore⟩ := ih hrest
            refine ⟨g ++ (w ++ (g' ++ ',' :: v)), item :: more, ?_, ?_, .more hg hspells hg' hmore⟩
            · simp
            · rw [heq, List.reverse_cons, ← List.append_cons]
        · cases hrest

/-! ## Pairs and inline tables -/

theorem Reader.pair?_append {w rest : Text} {pair : Pair} (hw : SpellsPair V w pair)
    (hrest : Closes rest) :
    ∃ placed, pair? read (w ++ rest) = some (placed, rest) ∧ placed.unplaced = pair := by
  cases hw with
  | @pair k s w path key value hk hs hw =>
      obtain ⟨path', key', hkey, hpath, hlast⟩ := key?_append hk
        (beginsNot_cons rfl (s ++ (w ++ rest)) : BeginsNot keyGoesOn ('=' :: _))
      obtain ⟨placed, hplaced, hnode⟩ := hread.reads hw hrest
      have hspace : BeginsNot isSpace (w ++ rest) :=
        hread.beginsNot hw (fun c hc => by simp_all [beginsValue, endsGap]) rest
      refine ⟨⟨path', key', placed⟩, ?_, by rw [Pair.unplaced, hpath, hlast, hnode]⟩
      simp only [List.append_assoc, List.cons_append, pair?, hkey, Option.bind_eq_bind,
        Option.bind_some, dropStart?, if_pos, afterSpaces_append hs hspace, hplaced]

theorem Reader.exists_spellsPair {t rest : Text} {pair : Pair}
    (hpair : pair? read t = some (pair, rest)) :
    ∃ w, t = w ++ rest ∧ SpellsPair V w pair.unplaced := by
  simp only [pair?, Option.bind_eq_bind, Option.bind_eq_some_iff] at hpair
  obtain ⟨⟨⟨path, key⟩, after⟩, hkey, more, hmark, ⟨value, last⟩, hvalue, heq⟩ := hpair
  cases heq
  obtain ⟨k, rfl, hk⟩ := exists_spellsKey hkey
  obtain rfl := dropStart?_eq_some hmark
  obtain ⟨s, hs, hspaces⟩ := exists_spaces more
  obtain ⟨w, hw, hspells⟩ := hread.spelled hvalue
  refine ⟨k ++ '=' :: (s ++ w), ?_, .pair hk hspaces hspells⟩
  rw [hs, hw]
  simp

omit hread in
theorem inlinePairs?_of_pair {t after : Text} {pair : Pair}
    (hpair : pair? read t = some (pair, after)) (done : List Pair) (fuel : Nat) :
    inlinePairs? read done (fuel + 1) t =
      match afterSpaces after with
      | '}' :: rest => some ((pair :: done).reverse, rest)
      | ',' :: rest => inlinePairs? read (pair :: done) fuel rest
      | _ => none := by
  rw [inlinePairs?, hpair]
  rfl

theorem Reader.inlinePairs?_append {w : Text} {pairs : List Pair} (hw : SpellsInline V w pairs)
    (done : List Pair) (rest : Text) {fuel : Nat} (hfuel : w.length ≤ fuel) :
    ∃ placed, inlinePairs? read done (fuel + 1) (w ++ rest) = some (done.reverse ++ placed, rest) ∧
      placed.map Pair.unplaced = pairs := by
  induction hw generalizing done fuel with
  | @last w s pair hw hs =>
      obtain ⟨placed, hplaced, hsame⟩ := hread.pair?_append hw (hs.closes (c := '}') rfl rest)
      refine ⟨[placed], ?_, by rw [List.map_singleton, hsame]⟩
      simp only [List.append_assoc, List.singleton_append]
      rw [inlinePairs?_of_pair hplaced, afterSpaces_append hs (beginsNot_cons rfl _)]
      show some ((placed :: done).reverse, rest) = _
      rw [List.reverse_cons]
  | @more w s v pair pairs hw hs hv ih =>
      simp only [List.length_append, List.length_cons] at hfuel
      obtain ⟨first, hfirst, hsame⟩ := hread.pair?_append hw (hs.closes (c := ',') rfl (v ++ rest))
      obtain ⟨fuel, rfl⟩ : ∃ less, fuel = less + 1 := ⟨fuel - 1, by omega⟩
      have hfits : v.length ≤ fuel := by omega
      obtain ⟨later, hlater, hmore⟩ := ih (first :: done) hfits
      refine ⟨first :: later, ?_, by rw [List.map_cons, hsame, hmore]⟩
      simp only [List.append_assoc, List.cons_append]
      rw [inlinePairs?_of_pair hfirst, afterSpaces_append hs (beginsNot_cons rfl _)]
      show inlinePairs? read (first :: done) (fuel + 1) (v ++ rest) = _
      rw [hlater, List.reverse_cons, ← List.append_cons]

theorem Reader.exists_spellsInline {done pairs : List Pair} {fuel : Nat} {t rest : Text}
    (hpairs : inlinePairs? read done fuel t = some (pairs, rest)) :
    ∃ w more, t = w ++ rest ∧ pairs = done.reverse ++ more ∧
      SpellsInline V w (more.map Pair.unplaced) := by
  induction fuel generalizing done t with
  | zero => cases hpairs
  | succ fuel ih =>
      cases hpair : pair? read t with
      | none =>
          rw [inlinePairs?, hpair] at hpairs
          cases hpairs
      | some found =>
          obtain ⟨pair, after⟩ := found
          rw [inlinePairs?_of_pair hpair] at hpairs
          obtain ⟨w, rfl, hw⟩ := hread.exists_spellsPair hpair
          obtain ⟨s, hs, hspaces⟩ := exists_spaces after
          split at hpairs
          · next last hlast =>
              cases hpairs
              rw [hlast] at hs
              refine ⟨w ++ (s ++ ['}']), [pair], ?_, List.reverse_cons, .last hw hspaces⟩
              rw [hs]
              simp
          · next last hlast =>
              rw [hlast] at hs
              obtain ⟨v, more, rfl, rfl, hmore⟩ := ih hpairs
              refine ⟨w ++ (s ++ ',' :: v), pair :: more, ?_, ?_, .more hw hspaces hmore⟩
              · rw [hs]
                simp
              · rw [List.reverse_cons, ← List.append_cons]
          · cases hpairs

end Lists

/-! ## Values -/

/-- Whether a character may begin a value without parts. -/
def beginsScalar (c : Char) : Bool :=
  beginsNumber c || c = '"' || c = '\x27' || c = 't' || c = 'f'

theorem SpellsScalar.exists_cons {w : Text} {value : Scalar} (hw : SpellsScalar w value) :
    ∃ c more, w = c :: more ∧ beginsScalar c = true := by
  have hnumber {w : Text} (hw : BeginsNumber w) :
      ∃ c more, w = c :: more ∧ beginsScalar c = true := by
    obtain ⟨c, more, rfl, hc⟩ := hw
    exact ⟨c, more, rfl, by simp [beginsScalar, hc]⟩
  cases hw with
  | string hw =>
      obtain ⟨c, more, rfl, hc⟩ := hw.exists_cons
      exact ⟨c, more, rfl, by rcases hc with rfl | rfl <;> rfl⟩
  | integer hw => exact hnumber hw.beginsNumber
  | float hw => exact hnumber hw.beginsNumber
  | moment hw => exact hnumber hw.beginsNumber
  | yes => exact ⟨_, _, rfl, rfl⟩
  | no => exact ⟨_, _, rfl, rfl⟩

theorem beginsValue_of_beginsScalar {c : Char} (hc : beginsScalar c = true) :
    beginsValue c = true ∧ c ≠ '[' ∧ c ≠ '{' := by
  simp only [beginsScalar, beginsNumber, Bool.or_eq_true, decide_eq_true_eq] at hc
  rcases hc with ((((((((hdigit | rfl) | rfl) | rfl) | rfl) | rfl) | rfl) | rfl) | rfl)
  · have hbare : isBare c = true := by simp [isBare, Char.isAlphanum, hdigit]
    have hbracket : c ≠ ']' := ne_of_isBare hbare rfl
    refine ⟨?_, ne_of_isBare hbare rfl, ne_of_isBare hbare rfl⟩
    simp [beginsValue, endsGap_of_isBare hbare, hbracket]
  all_goals decide

theorem scalar_reads {w rest : Text} {value : Scalar} (hw : SpellsScalar w value)
    (hrest : Closes rest) :
    ∃ placed, (scalar? (w ++ rest)).map (fun found =>
      (Node.scalar found.1 ⟨w ++ rest, found.2⟩, found.2)) = some (placed, rest) ∧
        placed.unplaced = .scalar value .nowhere := by
  rw [scalar?_append hw hrest]
  exact ⟨_, rfl, rfl⟩

theorem scalar_spelled {t rest : Text} {placed : Node}
    (hread : (scalar? t).map (fun found => (Node.scalar found.1 ⟨t, found.2⟩, found.2)) =
      some (placed, rest)) :
    ∃ w value, t = w ++ rest ∧ SpellsScalar w value ∧
      placed.unplaced = .scalar value .nowhere := by
  obtain ⟨⟨value, after⟩, hscalar, heq⟩ := Option.map_eq_some_iff.mp hread
  cases heq
  obtain ⟨w, hw, hspells⟩ := exists_spellsScalar hscalar
  exact ⟨w, value, hw, hspells, rfl⟩

theorem value?_scalar {t : Text} (ht : BeginsNot (fun c => c = '[' || c = '{') t) (depth : Nat) :
    value? (depth + 1) t =
      (scalar? t).map fun found => (Node.scalar found.1 ⟨t, found.2⟩, found.2) := by
  rw [value?]
  · rintro rest rfl
    exact absurd ht.of_cons (by decide)
  · rintro rest rfl
    exact absurd ht.of_cons (by decide)

theorem value?_array (depth : Nat) (t : Text) :
    value? (depth + 1) ('[' :: t) =
      (items? (value? depth) [] (t.length + 1) t).map fun found =>
        (.array found.1 ⟨'[' :: t, found.2⟩, found.2) :=
  rfl

theorem value?_emptyTable {t after : Text} (hclose : afterSpaces t = '}' :: after) (depth : Nat) :
    value? (depth + 1) ('{' :: t) = some (.inlineTable [] ⟨'{' :: t, after⟩, after) := by
  rw [value?, hclose]
  rfl

theorem value?_table {t : Text} (hpairs : ∀ after, afterSpaces t ≠ '}' :: after) (depth : Nat) :
    value? (depth + 1) ('{' :: t) =
      (inlinePairs? (value? depth) [] (t.length + 1) t).bind fun found =>
        (Entries.addPairs [] found.1).bind fun entries =>
          some (.inlineTable entries ⟨'{' :: t, found.2⟩, found.2) := by
  rw [value?]
  split
  · next after heq => exact absurd heq (hpairs after)
  · rfl

/-- The first pair of an inline table does not begin with the brace that ends one. -/
theorem SpellsInline.ne_close {V : Text → Node → Prop} {v : Text} {pairs : List Pair}
    (hv : SpellsInline V v pairs) (t after : Text) : afterSpaces (v ++ t) ≠ '}' :: after := by
  have hpair {w : Text} {pair : Pair} (hw : SpellsPair V w pair) (t : Text) :
      afterSpaces (w ++ t) ≠ '}' :: after := by
    cases hw with
    | pair hk hs hw =>
        rw [List.append_assoc]
        exact hk.afterSpaces_ne (by decide) _ after
  cases hv with
  | last hw hs =>
      rw [List.append_assoc]
      exact hpair hw _
  | more hw hs hv =>
      rw [List.append_assoc]
      exact hpair hw _

/-- Pairs without places make up the table that they make up with places, without places. -/
theorem addPairs_unplaced (pairs : List Pair) :
    Entries.addPairs [] (pairs.map Pair.unplaced) =
      (Entries.addPairs [] pairs).map unplacedEntries :=
  Entries.unplaced_addPairs pairs []

section Holders

variable {depth : Nat} (hread : Reader (SpellsValue depth) (value? depth))

include hread

theorem holder_reads {w rest : Text} {node : Node} (hw : SpellsHolder (SpellsValue depth) w node) :
    ∃ placed, value? (depth + 1) (w ++ rest) = some (placed, rest) ∧ placed.unplaced = node := by
  cases hw with
  | @array v items hv =>
      have hlength : v.length ≤ (v ++ rest).length := by simp
      obtain ⟨placed, hplaced, hnodes⟩ := hread.items?_append hv [] rest hlength
      refine ⟨.array placed ⟨'[' :: (v ++ rest), rest⟩, ?_, ?_⟩
      · rw [List.cons_append, value?_array, hplaced]
        rfl
      · rw [Node.unplaced, unplacedItems_eq, hnodes]
  | @emptyTable s hs =>
      have hclose : afterSpaces (s ++ '}' :: rest) = '}' :: rest :=
        afterSpaces_append hs (beginsNot_cons rfl rest)
      refine ⟨.inlineTable [] ⟨'{' :: (s ++ '}' :: rest), rest⟩, ?_, rfl⟩
      rw [List.cons_append, List.append_assoc, List.singleton_append, value?_emptyTable hclose]
  | @table v pairs entries hv hentries =>
      have hlength : v.length ≤ (v ++ rest).length := by simp
      obtain ⟨placed, hplaced, hpairs⟩ := hread.inlinePairs?_append hv [] rest hlength
      rw [← hpairs, addPairs_unplaced] at hentries
      obtain ⟨held, hheld, rfl⟩ := Option.map_eq_some_iff.mp hentries
      refine ⟨.inlineTable held ⟨'{' :: (v ++ rest), rest⟩, ?_, rfl⟩
      rw [List.cons_append, value?_table (hv.ne_close rest), hplaced, List.reverse_nil,
        List.nil_append, Option.bind_some, hheld]
      rfl

theorem holder_spelled {c : Char} (hc : c = '[' ∨ c = '{') {t rest : Text} {placed : Node}
    (hvalue : value? (depth + 1) (c :: t) = some (placed, rest)) :
    ∃ w, c :: t = w ++ rest ∧ SpellsHolder (SpellsValue depth) w placed.unplaced := by
  rcases hc with rfl | rfl
  · rw [value?_array] at hvalue
    obtain ⟨⟨items, after⟩, hitems, heq⟩ := Option.map_eq_some_iff.mp hvalue
    cases heq
    obtain ⟨w, more, rfl, rfl, hw⟩ := hread.exists_spellsItems hitems
    refine ⟨'[' :: w, rfl, ?_⟩
    rw [Node.unplaced, unplacedItems_eq]
    exact .array hw
  · by_cases hclose : ∃ after, afterSpaces t = '}' :: after
    · obtain ⟨after, hafter⟩ := hclose
      rw [value?_emptyTable hafter] at hvalue
      cases hvalue
      obtain ⟨s, hs, hspaces⟩ := exists_spaces t
      rw [hafter] at hs
      exact ⟨'{' :: (s ++ ['}']), by rw [hs]; simp, .emptyTable hspaces⟩
    · rw [value?_table fun after heq => hclose ⟨after, heq⟩] at hvalue
      obtain ⟨⟨pairs, after⟩, hpairs, hvalue⟩ := Option.bind_eq_some_iff.mp hvalue
      obtain ⟨entries, hentries, heq⟩ := Option.bind_eq_some_iff.mp hvalue
      cases heq
      obtain ⟨w, more, rfl, rfl, hw⟩ := hread.exists_spellsInline hpairs
      refine ⟨'{' :: w, rfl, .table hw ?_⟩
      rw [addPairs_unplaced]
      exact congrArg (Option.map unplacedEntries) hentries

end Holders

theorem exists_begins_of_scalar {w : Text} {node : Node}
    (hw : ∃ value, SpellsScalar w value ∧ node = .scalar value .nowhere) :
    ∃ c more, w = c :: more ∧ beginsValue c = true ∧ c ≠ '[' ∧ c ≠ '{' := by
  obtain ⟨value, hw, -⟩ := hw
  obtain ⟨c, more, rfl, hc⟩ := hw.exists_cons
  exact ⟨c, more, rfl, beginsValue_of_beginsScalar hc⟩

theorem SpellsHolder.exists_begins {V : Text → Node → Prop} {w : Text} {node : Node}
    (hw : SpellsHolder V w node) : ∃ c more, w = c :: more ∧ beginsValue c = true := by
  cases hw with
  | array hv => exact ⟨_, _, rfl, rfl⟩
  | emptyTable hs => exact ⟨_, _, rfl, rfl⟩
  | table hv hentries => exact ⟨_, _, rfl, rfl⟩

/-- Where values may not nest, those without parts are read. -/
theorem reader_value?_zero : Reader (SpellsValue 0) (value? 0) := by
  constructor
  · rintro w node rest ⟨value, hw, rfl⟩ hrest
    exact scalar_reads hw hrest
  · intro t placed rest hread
    obtain ⟨w, value, hw, hspells, hplaced⟩ := scalar_spelled hread
    exact ⟨w, hw, value, hspells, hplaced⟩
  · intro w node hw
    obtain ⟨c, more, hcons, hc, -⟩ := exists_begins_of_scalar hw
    exact ⟨c, more, hcons, hc⟩

/-- Values that may nest one deeper are read if those within them are. -/
theorem Reader.value?_succ {depth : Nat} (hread : Reader (SpellsValue depth) (value? depth)) :
    Reader (SpellsValue (depth + 1)) (value? (depth + 1)) := by
  constructor
  · rintro w node rest (hscalar | hholder) hrest
    · obtain ⟨c, more, rfl, -, hbracket, hbrace⟩ := exists_begins_of_scalar hscalar
      obtain ⟨value, hw, rfl⟩ := hscalar
      have hholder : BeginsNot (fun c => c = '[' || c = '{') (c :: more ++ rest) :=
        beginsNot_cons (by simp [hbracket, hbrace]) _
      rw [value?_scalar hholder]
      exact scalar_reads hw hrest
    · exact holder_reads hread hholder
  · intro t placed rest hvalue
    by_cases hholder : BeginsNot (fun c => c = '[' || c = '{') t
    · rw [value?_scalar hholder] at hvalue
      obtain ⟨w, value, hw, hspells, hplaced⟩ := scalar_spelled hvalue
      exact ⟨w, hw, .inl ⟨value, hspells, hplaced⟩⟩
    · cases t with
      | nil => exact absurd (beginsNot_nil _) hholder
      | cons c t =>
          have hc : c = '[' ∨ c = '{' := by
            apply Decidable.byContradiction
            intro hnone
            exact hholder (beginsNot_cons (by simpa [not_or] using hnone) t)
          obtain ⟨w, hw, hspells⟩ := holder_spelled hread hc hvalue
          exact ⟨w, hw, .inr hspells⟩
  · rintro w node (hscalar | hholder)
    · obtain ⟨c, more, hcons, hc, -⟩ := exists_begins_of_scalar hscalar
      exact ⟨c, more, hcons, hc⟩
    · exact hholder.exists_begins

/-- **Values are read as the grammar has them**, however deep they nest. -/
theorem reader_value? (depth : Nat) : Reader (SpellsValue depth) (value? depth) := by
  induction depth with
  | zero => exact reader_value?_zero
  | succ depth ih => exact ih.value?_succ

end OperatorNames.Toml
