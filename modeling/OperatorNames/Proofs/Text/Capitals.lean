import OperatorNames.Proofs.Text.UpperCase

/-!
# Upper case of upper case

What an upper case begins with stays as it is in upper case (`upper_of_upper_eq_cons`): neither table
maps a code point to which one of them leads first.  That is checked of the targets of a run all at
once (`Steady`), against the sources of every run and of every expansion.
-/

namespace OperatorNames.Text

/-- Whether a run leaves out the code points from `first` to `last`, in steps of `step`: they lie
before it or behind it, or the run has every other code point and they are the ones between. -/
def MappedRun.leavesOut (run : MappedRun) (first last step : Nat) : Bool :=
  Nat.blt run.last first || Nat.blt last run.first ||
    (run.step = 2 && (first + run.first) % 2 = 1 && (step = 2 || first = last))

theorem MappedRun.image?_of_leavesOut {run : MappedRun} {first last step n : Nat}
    (hout : run.leavesOut first last step = true) (hfirst : first ≤ n) (hlast : n ≤ last)
    (hstep : (n - first) % step = 0) : run.image? n = none := by
  unfold image?
  refine if_neg ?_
  rintro ⟨hlow, hhigh, hmember⟩
  simp only [leavesOut, Bool.or_eq_true, Bool.and_eq_true, Nat.blt_eq, decide_eq_true_eq] at hout
  obtain (hbehind | hbefore) | ⟨⟨htwo, hodd⟩, hother⟩ := hout
  · omega
  · omega
  · rw [htwo] at hmember
    rcases hother with rfl | rfl
    · omega
    · omega

/-- Whether the code points from `first` to `last`, in steps of `step`, are all left as they are:
capital letters of ASCII, or code points beyond ASCII that neither table has as a source. -/
def isSteady (first last step : Nat) : Bool :=
  (0x41 ≤ first && last ≤ 0x5A) ||
    (0x80 ≤ first && caseExpansions.all (fun e => Nat.blt e.1 first || Nat.blt last e.1) &&
      caseRuns.all (·.leavesOut first last step))

theorem upperCode_of_isSteady {first last step n : Nat} (hsteady : isSteady first last step = true)
    (hfirst : first ≤ n) (hlast : n ≤ last) (hstep : (n - first) % step = 0) :
    upperCode n = [n] := by
  simp only [isSteady, Bool.or_eq_true, Bool.and_eq_true, Nat.blt_eq, decide_eq_true_eq,
    List.all_eq_true] at hsteady
  unfold upperCode
  obtain ⟨hlow, hhigh⟩ | ⟨⟨hbeyond, hexpansions⟩, hruns⟩ := hsteady
  · rw [if_pos (by omega), if_neg (by omega)]
  · have hseveral : caseExpansions.lookup n = none := by
      rw [List.lookup_eq_none_iff]
      intro e he
      have hout := hexpansions e he
      rw [bne_iff_ne]
      omega
    have hone : caseRuns.findSome? (·.image? n) = none := by
      rw [List.findSome?_eq_none_iff]
      exact fun run hrun => MappedRun.image?_of_leavesOut (hruns run hrun) hfirst hlast hstep
    rw [if_neg (by omega), hseveral]
    dsimp only
    rw [hone]

theorem isSteady_targets :
    caseRuns.all (fun run => isSteady run.target (run.target + (run.last - run.first)) run.step) =
      true := by
  decide +kernel

/-- Whether the first of some code points is left as it is. -/
def beginsSteady : List Nat → Bool
  | [] => false
  | m :: _ => isSteady m m 1

theorem beginsSteady_expansions : caseExpansions.all (fun e => beginsSteady e.2) = true := by
  decide +kernel

/-- A code point goes to one or several, and the first of them stays as it is. -/
theorem exists_upperCode_eq_cons (n : Nat) :
    ∃ m more, upperCode n = m :: more ∧ upperCode m = [m] := by
  obtain ⟨letter, hlow, hhigh, hcode⟩ | ⟨several, hentry, hcode⟩ |
    ⟨run, hrun, one, himage, hcode⟩ | hcode := upperCode_cases n
  · refine ⟨letter, [], hcode, ?_⟩
    unfold upperCode
    rw [if_pos (by omega), if_neg (by omega)]
  · have hsteady := List.all_eq_true.mp beginsSteady_expansions _ hentry
    cases several with
    | nil => cases hsteady
    | cons m more =>
        exact ⟨m, more, hcode, upperCode_of_isSteady hsteady (Nat.le_refl m) (Nat.le_refl m)
          (by rw [Nat.sub_self, Nat.zero_mod])⟩
  · have hsteady := List.all_eq_true.mp isSteady_targets run hrun
    refine ⟨one, [], hcode, ?_⟩
    -- the image lies as far behind the first target as its source behind the first source
    unfold MappedRun.image? at himage
    split at himage
    · next hmember =>
        obtain ⟨hlow, hhigh, hstep⟩ := hmember
        cases himage
        refine upperCode_of_isSteady hsteady (Nat.le_add_right _ _) (by omega) ?_
        rwa [Nat.add_sub_cancel_left]
    · cases himage
  · exact ⟨n, [], hcode, hcode⟩

/-- An upper case has a first character, and that one is its own upper case. -/
theorem exists_upper_eq_cons (c : Char) :
    ∃ d more, upper c = d :: more ∧ upper d = [d] := by
  obtain ⟨m, more, hcode, hsteady⟩ := exists_upperCode_eq_cons c.toNat
  have hscalar : (Char.ofNat m).toNat = m := by
    have hmem : m ∈ upperCode c.toNat := by
      rw [hcode]
      exact List.mem_cons_self
    rcases mem_upperCode hmem with rfl | htarget
    · rw [Char.ofNat_toNat]
    · exact toNat_ofNat_of_isUpperTarget htarget
  refine ⟨Char.ofNat m, more.map Char.ofNat, ?_, ?_⟩
  · rw [upper, hcode, List.map_cons]
  · rw [upper, hscalar, hsteady, List.map_singleton]

end OperatorNames.Text
