import OperatorNames.Proofs.Document.Calls
import OperatorNames.Proofs.Document.Lines
import OperatorNames.Proofs.Output.Emission

/-!
# Documents one after the other

What a scan of a document yields (`Scan.yield`) is put together from what scans of its parts yield,
wherever the document is cut after a line feed: the second part is scanned with what the first one
has left of the lines to be passed over, its line numbers count those of the first one in, and it is
not scanned at all where the first one could not be read (`yield_append`).  What a shorter document
has printed is therefore the beginning of what a longer one prints, and lines without a token change
nothing but the numbers of the lines after them.
-/

namespace OperatorNames

open Document

/-- An item as it comes when some lines have been read before: the number of a line counts them
in. -/
def Item.later (lines : Nat) : Item → Item
  | .error (.unread line fault) => .error (.unread (line + lines) fault)
  | item => item

theorem Item.later_later (k l : Nat) (item : Item) :
    Item.later k (Item.later l item) = Item.later (l + k) item := by
  cases item with
  | ok op => rfl
  | error problem =>
      cases problem with
      | unread line fault =>
          show (Except.error (.unread (line + l + k) fault) : Item) = .error (.unread _ fault)
          rw [Nat.add_assoc]
      | unopened path fault => rfl
      | pattern fault => rfl

theorem Item.later_zero (item : Item) : Item.later 0 item = item := by
  cases item with
  | ok op => rfl
  | error problem => cases problem <;> rfl

/-- Operators have no line numbers. -/
theorem Item.toOption_later (lines : Nat) (item : Item) :
    (Item.later lines item).toOption = item.toOption := by
  cases item with
  | ok op => rfl
  | error problem => cases problem <;> rfl

theorem Item.map_later_ok (lines : Nat) (ops : List Operator) :
    (ops.map Except.ok).map (Item.later lines) = ops.map .ok := by
  rw [List.map_map]
  rfl

namespace Scan

/-- All that can be seen of a scan that is carried to its end. -/
structure Yield where
  /-- What has been delivered. -/
  items : List Item
  /-- How many lines have been searched. -/
  searched : Nat
  /-- How many operators have been found. -/
  found : Nat

namespace Yield

/-- Whether the scan came to a line that it could not read. -/
def Fails (y : Yield) : Prop :=
  ∃ problem, .error problem ∈ y.items

/-- The operators delivered. -/
def operators (y : Yield) : List Operator :=
  y.items.filterMap Except.toOption

/-- What a scan yields when some lines have been read before it that have yielded nothing. -/
def later (lines : Nat) (y : Yield) : Yield :=
  { y with items := y.items.map (Item.later lines) }

/-- What one scan yields and then another. -/
def followedBy (y z : Yield) : Yield :=
  { items := y.items ++ z.items
    searched := y.searched + z.searched
    found := y.found + z.found }

theorem operators_later (lines : Nat) (y : Yield) : (y.later lines).operators = y.operators := by
  unfold operators later
  rw [List.filterMap_map]
  congr 1
  funext item
  exact Item.toOption_later lines item

theorem later_zero (y : Yield) : y.later 0 = y := by
  have hitems : y.items.map (Item.later 0) = y.items :=
    (List.map_congr_left fun item _ => Item.later_zero item).trans (List.map_id' y.items)
  unfold later
  rw [hitems]

theorem later_later (k l : Nat) (y : Yield) : (y.later l).later k = y.later (l + k) := by
  unfold later
  rw [List.map_map]
  congr 1
  exact List.map_congr_left fun item _ => Item.later_later k l item

end Yield

/-- What a scan of octets yields that passes over `skip` lines. -/
def yield (b : Bytes) (skip : Nat) : Yield :=
  let (items, after) := (ofBytes b skip).drain
  { items, searched := after.searched, found := after.found }

/-- It is what asking for items yields until there is none. -/
theorem exhausts_iff_yield (b : Bytes) (skip : Nat) (y : Yield) :
    (∃ after, Exhausts (ofBytes b skip) y.items after ∧ after.searched = y.searched ∧
      after.found = y.found) ↔ y = yield b skip := by
  unfold yield
  constructor
  · rintro ⟨after, hexhausts, hsearched, hfound⟩
    rw [(exhausts_iff_drain _ _ _).mp hexhausts]
    show y = Yield.mk y.items after.searched after.found
    rw [hsearched, hfound]
  · rintro rfl
    exact ⟨_, (exhausts_iff_drain _ _ _).mpr rfl, rfl, rfl⟩

/-! ## Lines that can be read -/

/-- The texts of a document's lines before the first that is not UTF-8. -/
def textsOf (b : Bytes) : List Text :=
  readableTexts (octetLines b)

/-- Every line of the document is UTF-8. -/
def Readable (b : Bytes) : Prop :=
  (textsOf b).length = (octetLines b).length

/-- The item that ends a scan early, if there is one. -/
def lastItem (b : Bytes) : List Item :=
  if (textsOf b).length < (octetLines b).length then
    [.error (.unread ((textsOf b).length + 1) .notUtf8)]
  else []

theorem yield_eq (b : Bytes) (skip : Nat) :
    yield b skip =
      { items := (operatorsOf ((textsOf b).drop skip)).map .ok ++ lastItem b
        searched := (textsOf b).length - skip
        found := (operatorsOf ((textsOf b).drop skip)).length } := by
  have hend : (earlyEnd? 0 (octetLines b) none).toList.map Except.error = lastItem b := by
    unfold earlyEnd? lastItem textsOf
    split
    · rw [Nat.zero_add]
      rfl
    · rfl
  unfold yield ofBytes
  rw [drain_ofPieces]
  show Yield.mk (_ ++ (earlyEnd? 0 (octetLines b) none).toList.map Except.error) _ _ = _
  rw [hend]
  rfl

theorem readableTexts_append (lines more : List Bytes) :
    readableTexts (lines ++ more) =
      readableTexts lines ++
        if (readableTexts lines).length = lines.length then readableTexts more else [] := by
  induction lines with
  | nil => rfl
  | cons line rest ih =>
      cases htext : Text.Utf8.decode line with
      | none =>
          rw [List.cons_append, readableTexts_none _ htext, readableTexts_none _ htext]
          rfl
      | some text =>
          rw [List.cons_append, readableTexts_some _ htext, readableTexts_some _ htext, ih,
            List.cons_append, List.length_cons, List.length_cons]
          simp only [Nat.add_right_cancel_iff]

theorem lastItem_of_readable {b : Bytes} (hreadable : Readable b) : lastItem b = [] :=
  if_neg (Nat.not_lt.mpr (Nat.le_of_eq hreadable.symm))

theorem lastItem_of_not_readable {b : Bytes} (hreadable : ¬ Readable b) :
    lastItem b = [.error (.unread ((textsOf b).length + 1) .notUtf8)] :=
  if_pos (Nat.lt_of_le_of_ne (length_readableTexts_le _) hreadable)

/-- A scan fails exactly where a line is not UTF-8. -/
theorem fails_yield_iff (b : Bytes) (skip : Nat) : (yield b skip).Fails ↔ ¬ Readable b := by
  rw [yield_eq]
  constructor
  · rintro ⟨problem, hmem⟩ hreadable
    rw [lastItem_of_readable hreadable, List.append_nil] at hmem
    obtain ⟨op, -, hop⟩ := List.mem_map.mp hmem
    cases hop
  · intro hreadable
    rw [lastItem_of_not_readable hreadable]
    exact ⟨_, List.mem_append_right _ (List.mem_singleton_self _)⟩

/-! ## Two documents -/

section Append

variable {d : Bytes} (hended : EndsLines d) (more : Bytes)

include hended

theorem textsOf_append_of_readable (hreadable : Readable d) :
    textsOf (d ++ more) = textsOf d ++ textsOf more := by
  have hlength : (readableTexts (octetLines d)).length = (octetLines d).length := hreadable
  unfold textsOf
  rw [octetLines_append hended, readableTexts_append, if_pos hlength]

theorem textsOf_append_of_not_readable (hreadable : ¬ Readable d) :
    textsOf (d ++ more) = textsOf d := by
  have hlength : ¬ (readableTexts (octetLines d)).length = (octetLines d).length := hreadable
  unfold textsOf
  rw [octetLines_append hended, readableTexts_append, if_neg hlength, List.append_nil]

theorem lastItem_append_of_readable (hreadable : Readable d) :
    lastItem (d ++ more) = (lastItem more).map (Item.later (octetLines d).length) := by
  have hlength : (textsOf d).length = (octetLines d).length := hreadable
  unfold lastItem
  rw [textsOf_append_of_readable hended more hreadable, octetLines_append hended,
    List.length_append, List.length_append, hlength]
  simp only [Nat.add_lt_add_iff_left]
  split
  · show [_] = [(Except.error (.unread (_ + 1 + _) _) : Item)]
    rw [Nat.add_comm _ (octetLines d).length, Nat.add_assoc]
  · rfl

theorem readable_append_iff : Readable (d ++ more) ↔ Readable d ∧ Readable more := by
  by_cases hreadable : Readable d
  · have hlength : (textsOf d).length = (octetLines d).length := hreadable
    unfold Readable
    rw [textsOf_append_of_readable hended more hreadable, octetLines_append hended,
      List.length_append, List.length_append, hlength, Nat.add_left_cancel_iff]
    exact (and_iff_right rfl).symm
  · -- the texts end in the first document, so that they are fewer than the lines of both
    have hshort : (textsOf d).length < (octetLines d).length :=
      Nat.lt_of_le_of_ne (length_readableTexts_le _) hreadable
    refine ⟨fun hboth => ?_, fun h => absurd h.1 hreadable⟩
    unfold Readable at hboth
    rw [textsOf_append_of_not_readable hended more hreadable, octetLines_append hended,
      List.length_append] at hboth
    omega

theorem yield_append_of_readable (skip : Nat) (hreadable : Readable d) :
    yield (d ++ more) skip =
      (yield d skip).followedBy
        ((yield more (skip - (octetLines d).length)).later (octetLines d).length) := by
  have hlength : (textsOf d).length = (octetLines d).length := hreadable
  rw [yield_eq, yield_eq, yield_eq, textsOf_append_of_readable hended more hreadable,
    lastItem_append_of_readable hended more hreadable, lastItem_of_readable hreadable, ← hlength,
    List.drop_append, operatorsOf_append]
  unfold Yield.followedBy Yield.later
  simp only [List.map_append, Item.map_later_ok, List.append_nil, List.append_assoc,
    List.length_append, Yield.mk.injEq, true_and, and_true]
  omega

theorem yield_append_of_not_readable (skip : Nat) (hreadable : ¬ Readable d) :
    yield (d ++ more) skip = yield d skip := by
  have hboth : ¬ Readable (d ++ more) := fun h =>
    hreadable ((readable_append_iff hended more).mp h).1
  rw [yield_eq, yield_eq, textsOf_append_of_not_readable hended more hreadable,
    lastItem_of_not_readable hreadable, lastItem_of_not_readable hboth,
    textsOf_append_of_not_readable hended more hreadable]

end Append

/-! ## What has been printed -/

theorem taken_prefix_write (w : Writer) (b : Bytes) : w.taken <+: (w.write b).2.taken := by
  unfold Writer.write
  split
  · exact List.prefix_append _ _
  · split
    · exact List.prefix_append _ _
    · exact List.prefix_append _ _

/-- An emission keeps what has been written before it. -/
theorem taken_prefix_emitFrom (style : Style) (w : Writer) (count : Nat) (items : List Item) :
    w.taken <+: (emitFrom style w count items).writer.taken := by
  induction items generalizing w count with
  | nil => exact List.prefix_refl _
  | cons item rest ih =>
      cases item with
      | error problem => exact List.prefix_refl _
      | ok op =>
          have hwritten := taken_prefix_write w (style.line op)
          rw [emitFrom]
          rcases hwrite : w.write (style.line op) with ⟨_ | _, written⟩
          · rwa [hwrite] at hwritten
          · have hflushed := Writer.taken_flush written
            rw [hwrite] at hwritten
            dsimp only at hwritten ⊢
            rw [← hflushed] at hwritten
            rcases hflush : written.flush with ⟨_ | _, flushed⟩
            · rwa [hflush] at hwritten
            · rw [hflush] at hwritten
              exact hwritten.trans (ih flushed (count + 1))

/-- More items leave what has been written before them as it is. -/
theorem taken_emitFrom_append (style : Style) (w : Writer) (count : Nat) (items more : List Item) :
    (emitFrom style w count items).writer.taken <+:
      (emitFrom style w count (items ++ more)).writer.taken := by
  induction items generalizing w count with
  | nil => exact taken_prefix_emitFrom style w count more
  | cons item rest ih =>
      cases item with
      | error problem => exact List.prefix_refl _
      | ok op =>
          rw [List.cons_append, emitFrom, emitFrom]
          rcases w.write (style.line op) with ⟨_ | _, written⟩
          · exact List.prefix_refl _
          · dsimp only
            rcases written.flush with ⟨_ | _, flushed⟩
            · exact List.prefix_refl _
            · exact ih flushed (count + 1)

/-! ## Lines without a token -/

/-- Every line is UTF-8 and none has a token. -/
def Tokenless (b : Bytes) : Prop :=
  ∀ line ∈ octetLines b, ∃ text, Text.Utf8.decode line = some text ∧ Token.first? text = none

theorem readableTexts_of_tokenless {lines : List Bytes}
    (h : ∀ line ∈ lines, ∃ text, Text.Utf8.decode line = some text ∧ Token.first? text = none) :
    (readableTexts lines).length = lines.length ∧ operatorsOf (readableTexts lines) = [] := by
  induction lines with
  | nil => exact ⟨rfl, rfl⟩
  | cons line rest ih =>
      obtain ⟨text, htext, htoken⟩ := h line List.mem_cons_self
      obtain ⟨hlength, hops⟩ := ih fun other hother => h other (List.mem_cons_of_mem _ hother)
      rw [readableTexts_some rest htext]
      refine ⟨by rw [List.length_cons, List.length_cons, hlength], ?_⟩
      unfold operatorsOf at hops ⊢
      rw [List.filterMap_cons_none htoken]
      exact hops

/-- Lines without a token yield nothing but their number. -/
theorem yield_of_tokenless {b : Bytes} (h : Tokenless b) :
    Readable b ∧ yield b 0 = { items := [], searched := (octetLines b).length, found := 0 } := by
  obtain ⟨hlength, hops⟩ := readableTexts_of_tokenless h
  have hreadable : Readable b := hlength
  refine ⟨hreadable, ?_⟩
  rw [yield_eq, lastItem_of_readable hreadable, List.drop_zero, Nat.sub_zero]
  unfold textsOf
  rw [hops, hlength]
  rfl

/-- A scan without a failure yields operators, which have no line numbers. -/
theorem Yield.later_of_not_fails {y : Yield} (h : ¬ y.Fails) (lines : Nat) : y.later lines = y := by
  have hsame : ∀ item ∈ y.items, Item.later lines item = item := by
    intro item hitem
    cases item with
    | ok op => rfl
    | error problem => exact absurd ⟨problem, hitem⟩ h
  unfold Yield.later
  rw [List.map_congr_left hsame, List.map_id']

theorem Yield.later_followedBy (y z : Yield) (lines : Nat) :
    (y.followedBy z).later lines = (y.later lines).followedBy (z.later lines) := by
  unfold Yield.later Yield.followedBy
  rw [List.map_append]

/-- Lines without a token that come in between shift the line numbers after them. -/
theorem yield_between_of_readable {d between : Bytes} (hended : EndsLines d)
    (hbetween : EndsLines between) (htokenless : Tokenless between) (more : Bytes) {skip : Nat}
    (hskip : skip ≤ (octetLines d).length) (hreadable : Readable d) :
    yield (d ++ (between ++ more)) skip =
      { (yield (d ++ more) skip).later (octetLines between).length with
        searched := (yield (d ++ more) skip).searched + (octetLines between).length } := by
  obtain ⟨hread, hyield⟩ := yield_of_tokenless htokenless
  have hfails : ¬ (yield d skip).Fails := fun hfails => (fails_yield_iff d skip).mp hfails hreadable
  -- nothing is left to be passed over after the first document
  rw [yield_append_of_readable hended _ skip hreadable,
    yield_append_of_readable hended _ skip hreadable, Nat.sub_eq_zero_of_le hskip,
    yield_append_of_readable hbetween more 0 hread, hyield, Nat.zero_sub,
    Yield.later_followedBy, Yield.later_followedBy, Yield.later_later, Yield.later_later,
    Yield.later_of_not_fails hfails, Nat.add_comm (octetLines between).length]
  unfold Yield.followedBy Yield.later
  simp only [List.map_nil, List.nil_append, Yield.mk.injEq, true_and]
  omega

/-- **Documents compose.**  A document that ends its lines and another one after it yield what the
first one yields, and then what the second one yields with the rest of the lines to be passed over
and with line numbers that count the first one's lines in; where the first one cannot be read to its
end, what it yields is all.  So what the first one alone prints is the beginning of what both print,
and lines without a token that come between them, after the lines passed over, change no operator
and only shift the number of a line that cannot be read later. -/
theorem yield_append {d : Bytes} (hended : EndsLines d) (more : Bytes) (skip : Nat) :
    (¬ (yield d skip).Fails →
      yield (d ++ more) skip =
        (yield d skip).followedBy ((yield more (skip - d.count 0x0A)).later (d.count 0x0A))) ∧
    ((yield d skip).Fails → yield (d ++ more) skip = yield d skip) ∧
    (∀ style w, (emit style w (yield d skip).items).writer.taken <+:
      (emit style w (yield (d ++ more) skip).items).writer.taken) ∧
    ∀ between, EndsLines between → Tokenless between → skip ≤ d.count 0x0A →
      (yield (d ++ (between ++ more)) skip).operators = (yield (d ++ more) skip).operators ∧
      ((yield d skip).Fails → yield (d ++ (between ++ more)) skip = yield (d ++ more) skip) ∧
      (¬ (yield d skip).Fails →
        yield (d ++ (between ++ more)) skip =
          { (yield (d ++ more) skip).later (between.count 0x0A) with
            searched := (yield (d ++ more) skip).searched + between.count 0x0A }) := by
  have hwhole : ¬ (yield d skip).Fails → yield (d ++ more) skip =
      (yield d skip).followedBy ((yield more (skip - d.count 0x0A)).later (d.count 0x0A)) := by
    intro hfails
    rw [fails_yield_iff, Classical.not_not] at hfails
    rw [← length_octetLines hended]
    exact yield_append_of_readable hended more skip hfails
  have hbroken : ∀ after, (yield d skip).Fails → yield (d ++ after) skip = yield d skip :=
    fun after hfails =>
      yield_append_of_not_readable hended after skip ((fails_yield_iff d skip).mp hfails)
  refine ⟨hwhole, hbroken more, ?_, ?_⟩
  · intro style w
    by_cases hfails : (yield d skip).Fails
    · exact (hbroken more hfails).symm ▸ List.prefix_refl _
    · rw [hwhole hfails]
      exact taken_emitFrom_append style w 0 _ _
  · intro between hbetween htokenless hskip
    have hshifted : ¬ (yield d skip).Fails → yield (d ++ (between ++ more)) skip =
        { (yield (d ++ more) skip).later (between.count 0x0A) with
          searched := (yield (d ++ more) skip).searched + between.count 0x0A } := by
      intro hfails
      rw [fails_yield_iff, Classical.not_not] at hfails
      rw [← length_octetLines hbetween]
      rw [← length_octetLines hended] at hskip
      exact yield_between_of_readable hended hbetween htokenless more hskip hfails
    have hsame : (yield d skip).Fails →
        yield (d ++ (between ++ more)) skip = yield (d ++ more) skip := fun hfails =>
      (hbroken _ hfails).trans (hbroken more hfails).symm
    refine ⟨?_, hsame, hshifted⟩
    by_cases hfails : (yield d skip).Fails
    · rw [hsame hfails]
    · rw [hshifted hfails]
      exact Yield.operators_later (between.count 0x0A) (yield (d ++ more) skip)

/-- A line that is passed over and one with a token. -/
def twoLines : Bytes :=
  Text.Utf8.encode "t\n`a`\n".toList

/-- A line that is not UTF-8. -/
def brokenLine : Bytes :=
  [0xFF, 0x0A]

/-- A line that cannot be read comes after two that can, with a line between them and without it;
and nothing that comes after it counts. -/
theorem yield_append_twoLines :
    EndsLines twoLines ∧ EndsLines brokenLine ∧ EndsLines [0x78, 0x0A] ∧ Tokenless [0x78, 0x0A] ∧
    1 ≤ twoLines.count 0x0A ∧ ¬ (yield twoLines 1).Fails ∧ (yield brokenLine 1).Fails ∧
    yield (twoLines ++ brokenLine) 1 =
      { items := [.ok (.ofToken ['a']), .error (.unread 3 .notUtf8)], searched := 1, found := 1 } ∧
    yield (twoLines ++ ([0x78, 0x0A] ++ brokenLine)) 1 =
      { items := [.ok (.ofToken ['a']), .error (.unread 4 .notUtf8)], searched := 2, found := 1 } ∧
    yield (brokenLine ++ twoLines) 1 =
      { items := [.error (.unread 1 .notUtf8)], searched := 0, found := 0 } := by
  have hfirst : EndsLines twoLines := by decide
  have hbroken : EndsLines brokenLine := by decide
  have hbetween : EndsLines [0x78, 0x0A] := by decide
  have htokenless : Tokenless [0x78, 0x0A] := by
    intro line hline
    obtain rfl : line = [0x78] := List.mem_singleton.mp hline
    exact ⟨['x'], rfl, rfl⟩
  have hreads : yield twoLines 1 = { items := [.ok (.ofToken ['a'])], searched := 1, found := 1 } :=
    rfl
  have hholds : ¬ (yield twoLines 1).Fails := by
    rw [hreads]
    rintro ⟨problem, hmem⟩
    cases List.mem_singleton.mp hmem
  have hfails : (yield brokenLine 1).Fails := ⟨_, List.mem_singleton_self _⟩
  obtain ⟨hwhole, -, -, hinserted⟩ := yield_append hfirst brokenLine 1
  obtain ⟨-, hsame, -, -⟩ := yield_append hbroken twoLines 1
  obtain ⟨-, -, hshifted⟩ := hinserted _ hbetween htokenless (by decide)
  refine ⟨hfirst, hbroken, hbetween, htokenless, by decide, hholds, hfails, ?_, ?_, ?_⟩
  · exact hwhole hholds
  · exact hshifted hholds
  · exact hsame hfails

end Scan

end OperatorNames
