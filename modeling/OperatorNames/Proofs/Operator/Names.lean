import OperatorNames.Operator
import OperatorNames.Proofs.Text.Capitals
import OperatorNames.Proofs.Text.Pieces

/-!
# Names of tokens

The name of a token is put together from the names of its parts (`nameOfToken_append`), so that it
depends neither on which separators there are nor on how many.  A name has no separator and begins
with an upper case, and is therefore its own name (`nameOfToken_nameOfToken`).
-/

namespace OperatorNames

open Text

variable {s t run : Text} {c d : Char}

theorem isSeparator_iff : isSeparator c = true ↔ c = '.' ∨ c = '_' := by
  unfold isSeparator
  rw [Bool.or_eq_true, decide_eq_true_eq, decide_eq_true_eq]

/-! ## Segments -/

/-- A separator ends a segment, and the name goes on with what follows. -/
theorem nameOfToken_append (hc : isSeparator c = true) (s t : Text) :
    nameOfToken (s ++ c :: t) = nameOfToken s ++ nameOfToken t := by
  unfold nameOfToken
  rw [cutAt_append_cons hc, List.flatMap_append]

/-- A token without separators is one segment. -/
theorem nameOfToken_segment (hs : ∀ c ∈ s, isSeparator c = false) :
    nameOfToken s = capitalize s := by
  unfold nameOfToken
  rw [cutAt_eq_singleton hs, List.flatMap_singleton]

theorem nameOfToken_nil : nameOfToken [] = [] :=
  rfl

theorem nameOfToken_cons (hc : isSeparator c = true) (t : Text) :
    nameOfToken (c :: t) = nameOfToken t :=
  nameOfToken_append hc [] t

/-- Separators alone add nothing in front. -/
theorem nameOfToken_separators_append (hrun : ∀ c ∈ run, isSeparator c = true) (t : Text) :
    nameOfToken (run ++ t) = nameOfToken t := by
  induction run with
  | nil => rfl
  | cons c run ih =>
      rw [List.cons_append, nameOfToken_cons (hrun c List.mem_cons_self)]
      exact ih fun d hd => hrun d (List.mem_cons_of_mem c hd)

/-- However many separators there are, and whichever, they count as one. -/
theorem nameOfToken_append_separators (hne : run ≠ []) (hrun : ∀ c ∈ run, isSeparator c = true)
    (s t : Text) : nameOfToken (s ++ run ++ t) = nameOfToken s ++ nameOfToken t := by
  cases run with
  | nil => exact absurd rfl hne
  | cons c run =>
      rw [List.append_assoc, List.cons_append, nameOfToken_append (hrun c List.mem_cons_self),
        nameOfToken_separators_append fun d hd => hrun d (List.mem_cons_of_mem c hd)]

/-- Separators at the end add nothing either. -/
theorem nameOfToken_append_trailing (hrun : ∀ c ∈ run, isSeparator c = true) (s : Text) :
    nameOfToken (s ++ run) = nameOfToken s := by
  by_cases hne : run = []
  · rw [hne, List.append_nil]
  · have hsplit := nameOfToken_append_separators hne hrun s []
    rwa [List.append_nil, nameOfToken_nil, List.append_nil] at hsplit

/-! ## Other separators -/

/-- A point for an underscore and the other way round; every other character as it is. -/
def otherSeparator (c : Char) : Char :=
  if c = '.' then '_' else if c = '_' then '.' else c

theorem isSeparator_otherSeparator (c : Char) :
    isSeparator (otherSeparator c) = isSeparator c := by
  unfold otherSeparator
  split
  · next hpoint => rw [hpoint]; rfl
  · split
    · next hunderscore => rw [hunderscore]; rfl
    · rfl

theorem otherSeparator_of_not (hc : isSeparator c = false) : otherSeparator c = c := by
  simp only [isSeparator, Bool.or_eq_false_iff, decide_eq_false_iff_not] at hc
  unfold otherSeparator
  rw [if_neg hc.1, if_neg hc.2]

theorem cutAt_map_otherSeparator (s : Text) :
    cutAt isSeparator (s.map otherSeparator) = cutAt isSeparator s := by
  induction s with
  | nil => rfl
  | cons c s ih =>
      rw [List.map_cons, cutAt, cutAt, isSeparator_otherSeparator, ih]
      cases hc : isSeparator c with
      | true => rfl
      | false => rw [otherSeparator_of_not hc]

theorem nameOfToken_map_otherSeparator (s : Text) :
    nameOfToken (s.map otherSeparator) = nameOfToken s := by
  unfold nameOfToken
  rw [cutAt_map_otherSeparator]

/-! ## Names of names -/

/-- No separator is the upper case of anything but itself. -/
theorem isSeparator_of_mem_upper (hmem : d ∈ upper c) (hc : isSeparator c = false) :
    isSeparator d = false := by
  cases hd : isSeparator d with
  | false => rfl
  | true =>
      have hsame : d = c := by
        apply eq_of_mem_upper hmem
        rcases isSeparator_iff.mp hd with rfl | rfl
        · decide
        · decide
      rw [hsame, hc] at hd
      cases hd

/-- A character of a name is one of the token, and no separator, or in the upper case of such a
one. -/
theorem exists_of_mem_name (hmem : c ∈ nameOfToken s) :
    ∃ d ∈ s, isSeparator d = false ∧ (c = d ∨ c ∈ upper d) := by
  obtain ⟨piece, hpiece, hcap⟩ := List.mem_flatMap.mp hmem
  cases piece with
  | nil => cases hcap
  | cons first rest =>
      rcases List.mem_append.mp hcap with hupper | hrest
      · obtain ⟨hin, hkept⟩ := mem_of_mem_cutAt hpiece List.mem_cons_self
        exact ⟨first, hin, hkept, .inr hupper⟩
      · obtain ⟨hin, hkept⟩ := mem_of_mem_cutAt hpiece (List.mem_cons_of_mem first hrest)
        exact ⟨c, hin, hkept, .inl rfl⟩

theorem isSeparator_of_mem_name (hmem : c ∈ nameOfToken s) : isSeparator c = false := by
  obtain ⟨d, -, hd, rfl | hupper⟩ := exists_of_mem_name hmem
  · exact hd
  · exact isSeparator_of_mem_upper hupper hd

/-- A capitalized segment is capitalized. -/
theorem capitalize_capitalize_append (segment t : Text) (hsegment : segment ≠ []) :
    capitalize (capitalize segment ++ t) = capitalize segment ++ t := by
  cases segment with
  | nil => exact absurd rfl hsegment
  | cons c rest =>
      obtain ⟨d, more, hupper, hsteady⟩ := exists_upper_eq_cons c
      rw [capitalize, hupper, List.cons_append, List.cons_append, capitalize, hsteady]
      rfl

/-- The first segment that is not empty is what a name begins with. -/
theorem capitalize_flatMap_capitalize (segments : List Text) :
    capitalize (segments.flatMap capitalize) = segments.flatMap capitalize := by
  induction segments with
  | nil => rfl
  | cons segment more ih =>
      rw [List.flatMap_cons]
      by_cases hsegment : segment = []
      · rw [hsegment]
        exact ih
      · exact capitalize_capitalize_append segment _ hsegment

theorem nameOfToken_nameOfToken (s : Text) : nameOfToken (nameOfToken s) = nameOfToken s := by
  rw [nameOfToken_segment fun c hc => isSeparator_of_mem_name hc]
  exact capitalize_flatMap_capitalize _

/-- **The laws of names.**  The name of a token is that of what stands before a separator and then
that of what follows it, and a token without separators is named by its first character in upper case
and the rest as it is.  So it makes no difference which separators a token has, how many of them stand
together, and whether there are any at its ends; a name has no separator, and it is its own name. -/
theorem nameOfToken_laws :
    (∀ s t c, c = '.' ∨ c = '_' →
      nameOfToken (s ++ c :: t) = nameOfToken s ++ nameOfToken t) ∧
    nameOfToken [] = [] ∧
    (∀ c rest, (∀ d ∈ c :: rest, d ≠ '.' ∧ d ≠ '_') → nameOfToken (c :: rest) = upper c ++ rest) ∧
    (∀ s, nameOfToken (s.map otherSeparator) = nameOfToken s) ∧
    (∀ s t c run, c = '.' ∨ c = '_' → run ≠ [] → (∀ d ∈ run, d = '.' ∨ d = '_') →
      nameOfToken (s ++ run ++ t) = nameOfToken (s ++ c :: t)) ∧
    (∀ s run, (∀ d ∈ run, d = '.' ∨ d = '_') →
      nameOfToken (run ++ s) = nameOfToken s ∧ nameOfToken (s ++ run) = nameOfToken s) ∧
    (∀ s, '.' ∉ nameOfToken s ∧ '_' ∉ nameOfToken s) ∧
    ∀ s, nameOfToken (nameOfToken s) = nameOfToken s := by
  have hseparators : ∀ run : Text, (∀ d ∈ run, d = '.' ∨ d = '_') →
      ∀ d ∈ run, isSeparator d = true := fun run hrun d hd => isSeparator_iff.mpr (hrun d hd)
  refine ⟨?_, nameOfToken_nil, ?_, nameOfToken_map_otherSeparator, ?_, ?_, ?_,
    nameOfToken_nameOfToken⟩
  · intro s t c hc
    exact nameOfToken_append (isSeparator_iff.mpr hc) s t
  · intro c rest hkept
    rw [nameOfToken_segment, capitalize]
    intro d hd
    rw [Bool.eq_false_iff, ne_eq, isSeparator_iff, not_or]
    exact hkept d hd
  · intro s t c run hc hne hrun
    rw [nameOfToken_append_separators hne (hseparators run hrun),
      nameOfToken_append (isSeparator_iff.mpr hc)]
  · intro s run hrun
    exact ⟨nameOfToken_separators_append (hseparators run hrun) s,
      nameOfToken_append_trailing (hseparators run hrun) s⟩
  · intro s
    constructor
    · intro hmem
      cases isSeparator_of_mem_name hmem
    · intro hmem
      cases isSeparator_of_mem_name hmem

/-- A token whose first segment begins with a letter that is two in upper case. -/
theorem nameOfToken_laws_sample :
    nameOfToken "\u00dfa._b".toList = nameOfToken "\u00dfa".toList ++ nameOfToken "_b".toList ∧
    nameOfToken "\u00dfa".toList = upper '\u00df' ++ ['a'] ∧ upper '\u00df' = ['S', 'S'] ∧
    nameOfToken "\u00dfa._b".toList = nameOfToken "\u00dfa_b".toList ∧
    nameOfToken "_b".toList = nameOfToken ['b'] ∧
    nameOfToken "\u00dfa._b".toList = "SSaB".toList ∧
    nameOfToken "SSaB".toList = "SSaB".toList := by
  obtain ⟨happend, -, hsegment, -, hrun, hends, -, hagain⟩ := nameOfToken_laws
  have hname : nameOfToken "\u00dfa._b".toList = "SSaB".toList := by decide
  refine ⟨?_, hsegment '\u00df' ['a'] (by simp), by decide, ?_, ?_, hname, ?_⟩
  · exact happend "\u00dfa".toList "_b".toList '.' (.inl rfl)
  · exact hrun "\u00dfa".toList ['b'] '_' ['.', '_'] (.inr rfl) (by simp) (by simp)
  · exact (hends ['b'] ['_'] (by simp)).1
  · have hsame := hagain "\u00dfa._b".toList
    rwa [hname] at hsame

end OperatorNames
