import OperatorNames.Proofs.FileSystem.Paths
import OperatorNames.Proofs.Fetch.Spool

/-!
# Temporary names do not run out

In a directory that is there, and unless the storage refuses or a path gets too long, a temporary
file can always be made (`exists_vacancy`): different numbers lead to different places, and one
number more is tried than there are entries.
-/

namespace OperatorNames

open Text

namespace Fetch

/-! ## Different numbers, different names -/

theorem mem_temporaryName {n : Nat} {c : Char} (hc : c ∈ temporaryName n) :
    c ∈ "opname-".toList ∨ c = '0' ∨ c.isDigit = true ∨ c ∈ ".md".toList := by
  unfold temporaryName at hc
  simp only [List.mem_append, List.mem_replicate] at hc
  rcases hc with ((hstem | ⟨-, hzero⟩) | hdigit) | hmark
  · exact .inl hstem
  · exact .inr (.inl hzero)
  · exact .inr (.inr (.inl (Nat.isDigit_of_mem_toDigits (by decide) (by decide) hdigit)))
  · exact .inr (.inr (.inr hmark))

theorem head?_temporaryName (n : Nat) : (temporaryName n).head? = some 'o' :=
  rfl

theorem isStep_temporaryName (n : Nat) : FileSystem.IsStep (temporaryName n) := by
  constructor
  · intro hnil
    have hhead := head?_temporaryName n
    rw [hnil] at hhead
    cases hhead
  · intro hslash
    have := mem_temporaryName hslash
    revert this
    decide

theorem isName_temporaryName {n : Nat} (hsize : Utf8.size (temporaryName n) ≤ FileSystem.maxName) :
    FileSystem.IsName (temporaryName n) := by
  have hhead := head?_temporaryName n
  refine { isStep_temporaryName n with ne_here := ?_, ne_above := ?_, no_nul := ?_, size_le := hsize }
  · intro hhere
    rw [hhere] at hhead
    cases hhead
  · intro habove
    rw [habove] at hhead
    cases hhead
  · intro hnul
    have := mem_temporaryName hnul
    revert this
    decide

theorem temporaryName_injective {n m : Nat} (hsame : temporaryName n = temporaryName m) : n = m := by
  have hvalue : ∀ k, Nat.ofDigitChars 10
      (List.replicate (6 - (decimal k).length) '0' ++ decimal k) 0 = k := by
    intro k
    rw [Nat.ofDigitChars_append, Nat.ofDigitChars_replicate_zero, Nat.mul_zero]
    exact Nat.ofDigitChars_ten_toDigits
  unfold temporaryName at hsame
  rw [List.append_cancel_right_eq, List.append_assoc, List.append_assoc,
    List.append_cancel_left_eq] at hsame
  rw [← hvalue n, ← hvalue m, hsame]

/-! ## A free name -/

/-- Of one number more than there are entries, some number's place below a directory is free. -/
theorem exists_free (files : FileSystem) (place : Place) :
    ∃ n ≤ files.entries.length, files.at? (place ++ [temporaryName n]) = none := by
  apply Classical.byContradiction
  intro hnone
  let taken := (List.range (files.entries.length + 1)).map fun n => place ++ [temporaryName n]
  have hnodup : taken.Nodup := by
    refine List.Pairwise.map _ ?_ List.nodup_range
    intro n m hne hsame
    rw [List.append_cancel_left_eq, List.cons.injEq] at hsame
    exact hne (temporaryName_injective hsame.1)
  have hsubset : taken ⊆ files.places := by
    intro other hother
    obtain ⟨n, hn, rfl⟩ := List.mem_map.mp hother
    apply Classical.byContradiction
    intro hfree
    refine hnone ⟨n, Nat.lt_succ_iff.mp (List.mem_range.mp hn), ?_⟩
    rw [FileSystem.at?_eq_none_iff]
    exact ⟨by simp, hfree⟩
  have hlength := List.Nodup.length_le_of_subset hnodup hsubset
  rw [List.length_map, List.length_range, FileSystem.places, List.length_map] at hlength
  omega

/-- **A temporary file can be made in every directory that is there**, unless the storage refuses or
a name or a path gets too long. -/
theorem exists_vacancy {storage : Storage} {files : FileSystem} {here place : Place}
    {directory : Text} (hwalk : files.walk here directory = .ok place)
    (hstands : files.at? place = some .directory) (hgranted : storage.refusal? = none)
    (hnames : ∀ n ≤ files.entries.length, Utf8.size (temporaryName n) ≤ FileSystem.maxName ∧
      Utf8.size (FileSystem.join directory (temporaryName n)) ≤ FileSystem.maxPath) :
    ∃ n ≤ files.entries.length, vacancy storage files here directory =
      .ok (FileSystem.join directory (temporaryName n), place ++ [temporaryName n]) := by
  have hleads : ∀ n ≤ files.entries.length,
      files.walk here (FileSystem.join directory (temporaryName n)) =
        .ok (place ++ [temporaryName n]) := by
    intro n hn
    obtain ⟨hname, hpath⟩ := hnames n hn
    exact FileSystem.walk_join (isName_temporaryName hname) hwalk hstands hpath
  obtain ⟨free, hfree, hvacant⟩ := exists_free files place
  unfold vacancy
  cases hfound : (List.range (files.entries.length + 1)).findSome?
      (numbered storage files here directory) with
  | none =>
      -- the number whose place is free would have given something
      rw [List.findSome?_eq_none_iff] at hfound
      have htaken := hfound free (List.mem_range.mpr (Nat.lt_succ_of_le hfree))
      simp only [numbered, hleads free hfree, hvacant, hgranted, reduceCtorEq] at htaken
  | some outcome =>
      obtain ⟨n, hn, -, hfirst⟩ := (findSome?_range_eq_some_iff _ _ _).mp hfound
      have hn : n ≤ files.entries.length := Nat.lt_succ_iff.mp hn
      refine ⟨n, hn, ?_⟩
      cases hplace : files.at? (place ++ [temporaryName n]) with
      | none =>
          simp only [numbered, hleads n hn, hplace, hgranted, Option.some.injEq] at hfirst
          rw [← hfirst, Option.getD_some]
      | some entry => simp only [numbered, hleads n hn, hplace, reduceCtorEq] at hfirst

end Fetch

end OperatorNames
