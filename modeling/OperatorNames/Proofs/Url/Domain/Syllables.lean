import OperatorNames.Proofs.Text.Syllables
import OperatorNames.Proofs.Url.Domain.Canonical

/-!
# Domain names of Hangul syllables

A label of Hangul syllables is accepted as it stands, whichever syllables it has, and looked up in
its encoded form (`toAscii?_of_syllables`).
-/

namespace OperatorNames.Domain

open Text

/-! ## Single syllables -/

/-- The mapping keeps all syllables. -/
theorem syllables_mem_validRanges : (0xAC00, 0xD7A3) ∈ validRanges := by
  have hword : "AC00-D7A3".toList ∈ cutAt (· = ' ')
    ("AB60-AB68 AB6A-AB6B ABC0-ABED ABF0-ABF9 AC00-D7A3 D7B0-D7C6 D7CB-D7FB FA0E-FA0F FA11".toList)
      := by
    decide +kernel
  have hrange : rangeOf "AC00-D7A3".toList = (0xAC00, 0xD7A3) := by
    decide +kernel
  refine List.mem_map.mpr ⟨_, List.mem_flatMap.mpr ⟨_, ?_, hword⟩, hrange⟩
  simp

theorem validRanges_has_syllable {c : Char} (hc : IsSyllable c) :
    validRanges.has c.toNat = true :=
  List.any_eq_true.mpr ⟨_, syllables_mem_validRanges,
    Bool.and_eq_true_iff.mpr ⟨decide_eq_true hc.1, decide_eq_true hc.2⟩⟩

theorem not_ascii_of_syllable {c : Char} (hc : IsSyllable c) : ¬ c.toNat < 0x80 := by
  have hfrom := hc.1
  omega

theorem mapChar_syllable {c : Char} (hc : IsSyllable c) : mapChar c = some [c] := by
  rw [mapChar, if_neg (not_ascii_of_syllable hc), if_pos (validRanges_has_syllable hc)]

theorem isValid_syllable {c : Char} (hc : IsSyllable c) : isValid c = true := by
  rw [isValid, if_neg (not_ascii_of_syllable hc), validRanges_has_syllable hc]

theorem markRanges_clear : ∀ r ∈ markRanges, r.2 < 0xAC00 ∨ 0xD7A3 < r.1 := by
  decide +kernel

theorem isMark_syllable {c : Char} (hc : IsSyllable c) : isMark c = false := by
  obtain ⟨hfrom, hto⟩ := hc
  refine List.any_eq_false.mpr fun r hr hin => ?_
  rw [Bool.and_eq_true, decide_eq_true_eq, decide_eq_true_eq] at hin
  have hclear := markRanges_clear r hr
  omega

theorem joinersAllowed_syllables {label : Text} (hlabel : ∀ c ∈ label, IsSyllable c)
    (before : Text) : joinersAllowed before label = true := by
  induction label generalizing before with
  | nil => rfl
  | cons c label ih =>
      rw [List.forall_mem_cons] at hlabel
      obtain ⟨hfrom, hto⟩ := hlabel.1
      rw [joinersAllowed, if_neg (by omega), if_neg (by omega), ih hlabel.2]
      rfl

/-! ## Labels -/

variable {label : Text}

theorem mapText_syllables (hlabel : ∀ c ∈ label, IsSyllable c) : mapText label = some label := by
  rw [mapText, mapM_eq_some_map fun c hc => mapChar_syllable (hlabel c hc), Option.map_some,
    ← List.flatMap_def, List.flatMap_singleton']

theorem dropStart?_syllables (hne : label ≠ []) (hlabel : ∀ c ∈ label, IsSyllable c) :
    dropStart? encodedMark label = none := by
  obtain ⟨c, more, rfl⟩ := List.exists_cons_of_ne_nil hne
  refine if_neg ?_
  rintro rfl
  exact not_ascii_of_syllable (hlabel 'x' List.mem_cons_self) (by decide)

theorem isAscii_syllables (hne : label ≠ []) (hlabel : ∀ c ∈ label, IsSyllable c) :
    isAscii label = false := by
  obtain ⟨c, more, rfl⟩ := List.exists_cons_of_ne_nil hne
  rw [isAscii, List.all_cons,
    decide_eq_false (not_ascii_of_syllable (hlabel c List.mem_cons_self))]
  rfl

theorem isAllowed_syllables (hne : label ≠ []) (hlabel : ∀ c ∈ label, IsSyllable c)
    (hlength : label.length ≤ longestPlain) : isAllowed label = true := by
  have hvalid : label.all isValid = true :=
    List.all_eq_true.mpr fun c hc => isValid_syllable (hlabel c hc)
  have hmark : label.head?.any isMark = false := by
    obtain ⟨c, more, rfl⟩ := List.exists_cons_of_ne_nil hne
    exact isMark_syllable (hlabel c List.mem_cons_self)
  rw [isAllowed, hvalid, isProper, decide_eq_true hlength, normalize_eq_of_syllables hlabel,
    decide_eq_true rfl, hmark, dropStart?_syllables hne hlabel, joinersAllowed_syllables hlabel]
  cases isAscii label <;> rfl

/-- The form in which syllables are looked up has no sign that a name may not have. -/
theorem isForbidden_of_mem_asciiLabel (hlabel : ∀ c ∈ label, IsSyllable c) {c : Char}
    (hc : c ∈ asciiLabel label) : isForbidden c = false := by
  have hmark : ∀ c ∈ encodedMark, isForbidden c = false := forall_mem_of_all (by decide)
  unfold asciiLabel at hc
  split at hc
  · next hascii =>
      have hsmall := of_decide_eq_true (List.all_eq_true.mp hascii c hc)
      exact absurd hsmall (not_ascii_of_syllable (hlabel c hc))
  · rcases List.mem_append.mp hc with hmem | hencoded
    · exact hmark c hmem
    · rcases Punycode.mem_encode hencoded with ⟨hmem, hliteral⟩ | rfl | hdigit
      · exact absurd hliteral (not_ascii_of_syllable (hlabel c hmem))
      · decide
      · exact hdigit.forall_of (P := fun c => isForbidden c = false) (by decide)

theorem asciiLabel_syllables (hne : label ≠ []) (hlabel : ∀ c ∈ label, IsSyllable c) :
    asciiLabel label = encodedMark ++ Punycode.encode label := by
  rw [asciiLabel, isAscii_syllables hne hlabel]
  rfl

theorem point_not_mem_syllables (hlabel : ∀ c ∈ label, IsSyllable c) : '.' ∉ label :=
  fun hc => not_ascii_of_syllable (hlabel '.' hc) (by decide)

/-- A label of syllables is looked up in its encoded form. -/
theorem toAscii?_of_syllables (hne : label ≠ []) (hlabel : ∀ c ∈ label, IsSyllable c)
    (hlength : label.length ≤ longestPlain) : toAscii? label = some (asciiLabel label) := by
  have hcut : cutAt (· = '.') label = [label] := by
    refine cutAt_eq_singleton fun c hc => decide_eq_false ?_
    rintro rfl
    exact point_not_mem_syllables hlabel hc
  have hplain : plainLabel? label = some label := by
    rw [plainLabel?, dropStart?_syllables hne hlabel]
  have hallowed : [label].all isAllowed = true := by
    rw [List.all_cons, isAllowed_syllables hne hlabel hlength]
    rfl
  have hright : [label].any hasRightToLeft = false := by
    rw [List.any_cons, hasRightToLeft_eq_false fun c hc => .inr (hlabel c hc)]
    rfl
  have hsigns : (joinWith ['.'] ([label].map asciiLabel)).any isForbidden = false :=
    List.any_eq_false.mpr fun c hc => by
      rw [isForbidden_of_mem_asciiLabel hlabel hc]
      exact Bool.false_ne_true
  have hof : ofLabels? [label] = some (asciiLabel label) := by
    unfold ofLabels?
    dsimp only
    rw [hallowed, hright, hsigns]
    rfl
  rw [toAscii?_eq, mapText_syllables hlabel, Option.bind_some, normalize_eq_of_syllables hlabel,
    hcut, List.mapM_cons, hplain]
  exact hof

end OperatorNames.Domain
