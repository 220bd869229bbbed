import OperatorNames.Url.Domain.Direction

/-!
# Labels without a part from right to left

The rule on directions asks nothing of ASCII or of Hangul syllables (`hasRightToLeft_eq_false`).
-/

namespace OperatorNames.Domain

open Text

/-- Whether a code point lies in ASCII or among the Hangul syllables. -/
def IsClear (n : Nat) : Prop :=
  n < 0x80 ∨ 0xAC00 ≤ n ∧ n ≤ 0xD7A3

theorem rightRanges_clear : ∀ r ∈ rightToLeft ++ arabicLetters ++ arabicDigits,
    0x80 ≤ r.1 ∧ (r.2 < 0xAC00 ∨ 0xD7A3 < r.1) := by
  decide +kernel

theorem has_eq_false_of_isClear {ranges : Ranges}
    (hranges : ∀ r ∈ ranges, r ∈ rightToLeft ++ arabicLetters ++ arabicDigits) {n : Nat}
    (hn : IsClear n) : ranges.has n = false := by
  refine List.any_eq_false.mpr fun r hr hin => ?_
  rw [Bool.and_eq_true, decide_eq_true_eq, decide_eq_true_eq] at hin
  have hclear := rightRanges_clear r (hranges r hr)
  unfold IsClear at hn
  omega

theorem direction_of_isClear {c : Char} (hc : IsClear c.toNat) :
    direction c ≠ .right ∧ direction c ≠ .arabicDigit := by
  have hright : rightToLeft.has c.toNat = false :=
    has_eq_false_of_isClear (fun r hr => List.mem_append_left _ (List.mem_append_left _ hr)) hc
  have harabic : arabicLetters.has c.toNat = false :=
    has_eq_false_of_isClear (fun r hr => List.mem_append_left _ (List.mem_append_right _ hr)) hc
  have hdigit : arabicDigits.has c.toNat = false :=
    has_eq_false_of_isClear (fun r hr => List.mem_append_right _ hr) hc
  unfold direction
  dsimp only
  rw [hright, harabic, hdigit, Bool.or_false, if_neg Bool.false_ne_true,
    if_neg Bool.false_ne_true]
  -- the directions that are left are neither of the two
  cases europeanDigits.has c.toNat <;> cases numberParts.has c.toNat
    <;> cases neutral.has c.toNat <;> cases attached.has c.toNat
    <;> exact ⟨nofun, nofun⟩

theorem hasRightToLeft_eq_false {label : Text} (hlabel : ∀ c ∈ label, IsClear c.toNat) :
    hasRightToLeft label = false := by
  refine List.any_eq_false.mpr fun c hc hright => ?_
  obtain ⟨hleft, hdigit⟩ := direction_of_isClear (hlabel c hc)
  rw [Bool.or_eq_true, decide_eq_true_eq, decide_eq_true_eq] at hright
  exact hright.elim hleft hdigit

end OperatorNames.Domain
