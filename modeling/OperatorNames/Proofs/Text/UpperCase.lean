import OperatorNames.Proofs.Text.Utf8
import OperatorNames.Text.UpperCase

/-!
# ASCII characters in upper case

Of the ASCII characters only the capital letters are the upper case of anything else
(`eq_of_mem_upper`).  So no mapping ever brings in a line end, a blank, a quote or a separator.
-/

namespace OperatorNames.Text

/-- The code points that mappings lead to: capital letters and characters beyond ASCII. -/
def IsUpperTarget (n : Nat) : Prop :=
  (0x41 ≤ n ∧ n ≤ 0x5A) ∨ (0x80 ≤ n ∧ n < 0xD800) ∨ (0xE000 ≤ n ∧ n < 0x110000)

instance (n : Nat) : Decidable (IsUpperTarget n) :=
  inferInstanceAs (Decidable (_ ∨ _))

/-- A run that leads only there, said of its two ends. -/
def MappedRun.LeadsUp (run : MappedRun) : Prop :=
  (0x41 ≤ run.target ∧ run.target + (run.last - run.first) ≤ 0x5A) ∨
  (0x80 ≤ run.target ∧ run.target + (run.last - run.first) < 0xD800) ∨
  (0xE000 ≤ run.target ∧ run.target + (run.last - run.first) < 0x110000)

instance (run : MappedRun) : Decidable run.LeadsUp :=
  inferInstanceAs (Decidable (_ ∨ _))

theorem leadsUp_of_mem_caseRuns : ∀ run ∈ caseRuns, run.LeadsUp := by
  decide +kernel

theorem isUpperTarget_of_mem_caseExpansions :
    ∀ e ∈ caseExpansions, ∀ n ∈ e.2, IsUpperTarget n := by
  decide +kernel

theorem isUpperTarget_of_image? {run : MappedRun} {n m : Nat} (hrun : run.LeadsUp)
    (himage : run.image? n = some m) : IsUpperTarget m := by
  unfold MappedRun.image? at himage
  split at himage
  · rw [Option.some.injEq] at himage
    unfold MappedRun.LeadsUp at hrun
    unfold IsUpperTarget
    omega
  · cases himage

/-- A code point goes to a capital letter of ASCII, where a table says, or nowhere. -/
theorem upperCode_cases (n : Nat) :
    (∃ m, 0x41 ≤ m ∧ m ≤ 0x5A ∧ upperCode n = [m]) ∨
    (∃ several, (n, several) ∈ caseExpansions ∧ upperCode n = several) ∨
    (∃ run ∈ caseRuns, ∃ m, run.image? n = some m ∧ upperCode n = [m]) ∨
    upperCode n = [n] := by
  unfold upperCode
  split
  · split
    · exact .inl ⟨n - 0x20, by omega, by omega, rfl⟩
    · exact .inr (.inr (.inr rfl))
  -- beyond ASCII: several characters, or one, or the character itself
  · cases hseveral : caseExpansions.lookup n with
    | some several =>
        obtain ⟨before, after, hsplit, -⟩ := List.lookup_eq_some_iff.mp hseveral
        have hentry : (n, several) ∈ caseExpansions := by
          rw [hsplit]
          exact List.mem_append_right _ List.mem_cons_self
        exact .inr (.inl ⟨several, hentry, rfl⟩)
    | none =>
        dsimp only
        cases hone : caseRuns.findSome? (·.image? n) with
        | none => exact .inr (.inr (.inr rfl))
        | some one =>
            obtain ⟨run, hrun, himage⟩ := List.exists_of_findSome?_eq_some hone
            exact .inr (.inr (.inl ⟨run, hrun, one, himage, rfl⟩))

/-- What holds of the capital letters of ASCII and of all that the two tables lead to holds of all
that a code point is mapped to, unless the code point is left as it is. -/
theorem eq_or_of_mem_upperCode {P : Nat → Prop} (hcapital : ∀ m, 0x41 ≤ m → m ≤ 0x5A → P m)
    (hruns : ∀ run ∈ caseRuns, ∀ n m, run.image? n = some m → P m)
    (hexpansions : ∀ e ∈ caseExpansions, ∀ m ∈ e.2, P m) {n m : Nat} (hmem : m ∈ upperCode n) :
    m = n ∨ P m := by
  obtain ⟨letter, hlow, hhigh, hcode⟩ | ⟨several, hentry, hcode⟩ |
    ⟨run, hrun, one, himage, hcode⟩ | hcode := upperCode_cases n
  · rw [hcode, List.mem_singleton] at hmem
    exact .inr (hmem ▸ hcapital letter hlow hhigh)
  · rw [hcode] at hmem
    exact .inr (hexpansions _ hentry m hmem)
  · rw [hcode, List.mem_singleton] at hmem
    exact .inr (hmem ▸ hruns run hrun n one himage)
  · rw [hcode, List.mem_singleton] at hmem
    exact .inl hmem

/-- What a code point is mapped to lies among the targets, unless it is left as it is. -/
theorem mem_upperCode {n m : Nat} (hmem : m ∈ upperCode n) : m = n ∨ IsUpperTarget m := by
  refine eq_or_of_mem_upperCode ?_ ?_ isUpperTarget_of_mem_caseExpansions hmem
  · intro m hlow hhigh
    exact .inl ⟨hlow, hhigh⟩
  · intro run hrun n m himage
    exact isUpperTarget_of_image? (leadsUp_of_mem_caseRuns run hrun) himage

theorem toNat_ofNat_of_isUpperTarget {n : Nat} (htarget : IsUpperTarget n) :
    (Char.ofNat n).toNat = n := by
  apply Utf8.toNat_ofNat_scalar
  unfold IsUpperTarget at htarget
  omega

/-- An ASCII character that is no capital letter is the upper case of no other character. -/
theorem eq_of_mem_upper {c d : Char} (hmem : d ∈ upper c) (hascii : ¬ IsUpperTarget d.toNat) :
    d = c := by
  unfold upper at hmem
  obtain ⟨m, hm, hd⟩ := List.mem_map.mp hmem
  rcases mem_upperCode hm with hsame | htarget
  · rw [← hd, hsame, Char.ofNat_toNat]
  · rw [← hd, toNat_ofNat_of_isUpperTarget htarget] at hascii
    exact absurd htarget hascii

end OperatorNames.Text
