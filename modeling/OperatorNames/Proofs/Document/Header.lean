import OperatorNames.Proofs.Document.Composition

/-!
# The lines passed over

A header of `n` lines is passed over by a scan that skips `n` lines.  What the scan yields is then
what the rest of the document yields by itself, with line numbers that count the header in, whatever
stands in the header, provided that the header is UTF-8 (`yield_header`).  A line of the header that
is not UTF-8 is not passed over: it ends the scan, and no line after it is searched.
-/

namespace OperatorNames.Scan

open Document

theorem readableTexts_map_encode (texts : List Text) :
    readableTexts (texts.map Text.Utf8.encode) = texts := by
  induction texts with
  | nil => rfl
  | cons text rest ih =>
      rw [List.map_cons, readableTexts_some _ (Text.Utf8.decode_encode text), ih]

/-- Lines are read up to the first that is not UTF-8. -/
theorem readableTexts_append_unreadable {line : Bytes} (before : List Text)
    (hline : ¬ ∃ t, line = Text.Utf8.encode t) (after : List Bytes) :
    readableTexts (before.map Text.Utf8.encode ++ line :: after) = before := by
  have hnone : Text.Utf8.decode line = none := by
    cases htext : Text.Utf8.decode line with
    | none => rfl
    | some text => exact absurd ⟨text, Text.Utf8.decode_eq_some_iff.mp htext⟩ hline
  rw [readableTexts_append, readableTexts_map_encode, if_pos (List.length_map _).symm,
    readableTexts_none after hnone, List.append_nil]

/-- Lines are the UTF-8 forms of texts, or there is a first one that is not. -/
theorem exists_texts_or_unreadable (lines : List Bytes) :
    (∃ texts : List Text, lines = texts.map Text.Utf8.encode) ∨
    ∃ (before : List Text) (line : Bytes) (after : List Bytes),
      lines = before.map Text.Utf8.encode ++ line :: after ∧ ¬ ∃ t, line = Text.Utf8.encode t := by
  induction lines with
  | nil => exact .inl ⟨[], rfl⟩
  | cons first rest ih =>
      by_cases hfirst : ∃ t, first = Text.Utf8.encode t
      · obtain ⟨t, rfl⟩ := hfirst
        obtain ⟨texts, rfl⟩ | ⟨before, line, after, rfl, hline⟩ := ih
        · exact .inl ⟨t :: texts, rfl⟩
        · exact .inr ⟨t :: before, line, after, rfl, hline⟩
      · exact .inr ⟨[], first, rest, rfl, hfirst⟩

theorem readable_iff (b : Bytes) : Readable b ↔ ∃ t, b = Text.Utf8.encode t := by
  constructor
  · intro hreadable
    apply exists_eq_encode
    obtain ⟨texts, htexts⟩ | ⟨before, line, after, hlines, hline⟩ :=
      exists_texts_or_unreadable (octetLines b)
    · intro line hmem
      rw [htexts] at hmem
      obtain ⟨t, -, rfl⟩ := List.mem_map.mp hmem
      exact ⟨t, rfl⟩
    · unfold Readable textsOf at hreadable
      rw [hlines, readableTexts_append_unreadable before hline, List.length_append,
        List.length_map, List.length_cons] at hreadable
      omega
  · rintro ⟨t, rfl⟩
    unfold Readable textsOf
    rw [octetLines_encode, readableTexts_map_encode, List.length_map]

/-- What a scan yields of a document that is not passed over at all has no failure before the first
line. -/
theorem pos_of_unread {d : Bytes} {skip line : Nat} {fault : Fault}
    (hmem : .error (.unread line fault) ∈ (yield d skip).items) : 0 < line := by
  rw [yield_eq] at hmem
  obtain hop | hlast := List.mem_append.mp hmem
  · obtain ⟨op, -, hop⟩ := List.mem_map.mp hop
    cases hop
  · unfold lastItem at hlast
    split at hlast
    · cases List.mem_singleton.mp hlast
      exact Nat.succ_pos _
    · cases hlast

/-- A header with a line that is not UTF-8 is all that is read. -/
theorem yield_unreadable_header {header line : Bytes} {before : List Text} {after : List Bytes}
    (hended : EndsLines header)
    (hlines : octetLines header = before.map Text.Utf8.encode ++ line :: after)
    (hline : ¬ ∃ t, line = Text.Utf8.encode t) (d : Bytes) :
    yield (header ++ d) (header.count 0x0A) =
      { items := [.error (.unread (before.length + 1) .notUtf8)], searched := 0, found := 0 } := by
  have htexts : textsOf header = before := by
    unfold textsOf
    rw [hlines]
    exact readableTexts_append_unreadable before hline after
  have hshort : before.length < (octetLines header).length := by
    rw [hlines, List.length_append, List.length_map, List.length_cons]
    omega
  have hreadable : ¬ Readable header := by
    unfold Readable
    rw [htexts]
    exact Nat.ne_of_lt hshort
  -- the texts before the line are fewer than the lines passed over
  rw [length_octetLines hended] at hshort
  rw [yield_append_of_not_readable hended d _ hreadable, yield_eq,
    lastItem_of_not_readable hreadable, htexts,
    List.drop_eq_nil_of_le (Nat.le_of_lt hshort), Nat.sub_eq_zero_of_le (Nat.le_of_lt hshort)]
  rfl

/-- **When a header is passed over.**  Scanning a header and a document, with as many lines passed
over as the header has, yields what scanning the document alone yields, with line numbers that count
the header in, exactly where the header is UTF-8.  Elsewhere the first line of the header that is not
UTF-8 is all that the scan reports, and nothing is searched. -/
theorem yield_header {header : Bytes} (hended : EndsLines header) (d : Bytes) :
    (yield (header ++ d) (header.count 0x0A) = (yield d 0).later (header.count 0x0A) ↔
      ∃ t, header = Text.Utf8.encode t) ∧
    ∀ (before : List Text) (line : Bytes) (after : List Bytes),
      octetLines header = before.map Text.Utf8.encode ++ line :: after →
      (¬ ∃ t, line = Text.Utf8.encode t) →
      yield (header ++ d) (header.count 0x0A) =
        { items := [.error (.unread (before.length + 1) .notUtf8)], searched := 0, found := 0 } := by
  refine ⟨?_, fun before line after hlines hline => yield_unreadable_header hended hlines hline d⟩
  rw [← readable_iff]
  constructor
  · intro hpassed
    obtain ⟨texts, htexts⟩ | ⟨before, line, after, hlines, hline⟩ :=
      exists_texts_or_unreadable (octetLines header)
    · unfold Readable textsOf
      rw [htexts, readableTexts_map_encode, List.length_map]
    · -- the failure names a line of the header, and so none that comes after it
      rw [yield_unreadable_header hended hlines hline] at hpassed
      obtain ⟨item, hitem, hlater⟩ : ∃ item ∈ (yield d 0).items,
          Item.later (header.count 0x0A) item = .error (.unread (before.length + 1) .notUtf8) := by
        apply List.mem_map.mp
        show _ ∈ ((yield d 0).later (header.count 0x0A)).items
        rw [← hpassed]
        exact List.mem_singleton_self _
      have hshort : before.length + 1 ≤ header.count 0x0A := by
        rw [← length_octetLines hended, hlines, List.length_append, List.length_map,
          List.length_cons]
        omega
      cases item with
      | ok op => cases hlater
      | error problem =>
          cases problem with
          | unread line fault =>
              have hpos := pos_of_unread hitem
              simp only [Item.later, Except.error.injEq, ScanProblem.unread.injEq] at hlater
              omega
          | unopened path fault => cases hlater
          | pattern fault => cases hlater
  · intro hreadable
    have hlength : (textsOf header).length = (octetLines header).length := hreadable
    have hnothing : yield header (header.count 0x0A) =
        { items := [], searched := 0, found := 0 } := by
      rw [yield_eq, lastItem_of_readable hreadable, ← length_octetLines hended, ← hlength,
        List.drop_length, Nat.sub_self]
      rfl
    rw [yield_append_of_readable hended d _ hreadable, hnothing, length_octetLines hended,
      Nat.sub_self]
    unfold Yield.followedBy
    rw [Nat.zero_add, Nat.zero_add]
    rfl

/-- A header with a token, and one with a line that is not UTF-8, before a document with a line that
is not UTF-8. -/
theorem yield_header_twoLines :
    EndsLines twoLines ∧ (∃ t, twoLines = Text.Utf8.encode t) ∧
    yield (twoLines ++ brokenLine) 2 =
      { items := [.error (.unread 3 .notUtf8)], searched := 0, found := 0 } ∧
    EndsLines brokenLine ∧ octetLines brokenLine = [[0xFF]] ∧ (¬ ∃ t, [0xFF] = Text.Utf8.encode t) ∧
    yield (brokenLine ++ twoLines) 1 =
      { items := [.error (.unread 1 .notUtf8)], searched := 0, found := 0 } := by
  have hended : EndsLines twoLines := by decide
  have hbroken : EndsLines brokenLine := by decide
  have hline : ¬ ∃ t, [0xFF] = Text.Utf8.encode t := by
    rintro ⟨t, ht⟩
    have hdecode : Text.Utf8.decode [0xFF] = some t := Text.Utf8.decode_eq_some_iff.mpr ht
    cases hdecode
  refine ⟨hended, ⟨_, rfl⟩, ?_, hbroken, rfl, hline, ?_⟩
  · exact (yield_header hended brokenLine).1.mpr ⟨_, rfl⟩
  · exact (yield_header hbroken twoLines).2 [] _ [] rfl hline

/-- A header that is not UTF-8 hides the operator after it. -/
theorem yield_header_brokenLine :
    ¬ ∀ header d : Bytes, EndsLines header →
      yield (header ++ d) (header.count 0x0A) = (yield d 0).later (header.count 0x0A) := by
  intro hpassed
  have hyield := hpassed brokenLine (Text.Utf8.encode "`a`\n".toList) (by decide)
  have hfound := congrArg Yield.found hyield
  exact absurd hfound (by decide)

end OperatorNames.Scan
