import OperatorNames.Proofs.Text.UpperCase
import OperatorNames.Text.Blank
import OperatorNames.Text.WordChar

/-!
# Word characters and their upper case

No word character is a blank, a control character or a sign of punctuation other than the underscore
(`IsInert`), and the upper case of a word character consists of word characters
(`isWord_of_mem_upper`).  The three facts about tables behind this are checked range by range and
run by run; only where a run steps over code points are its targets looked up one by one.
-/

namespace OperatorNames.Text

/-- Whether a character is a control character, of ASCII or beyond. -/
def isControl (c : Char) : Bool :=
  c.toNat < 0x20 || (0x7F ≤ c.toNat && c.toNat ≤ 0x9F)

/-- The characters that neither end nor alter a quoted string and neither end a word nor a line. -/
structure IsInert (c : Char) : Prop where
  /-- It is no double quote. -/
  ne_quote : c ≠ '"'
  /-- It is no backslash. -/
  ne_backslash : c ≠ '\\'
  /-- It is no backtick. -/
  ne_backtick : c ≠ '`'
  /-- It is no white space. -/
  not_blank : isBlank c = false
  /-- It is no control character. -/
  not_control : isControl c = false

/-! ## The table of word characters -/

theorem wordRanges_clear : ∀ r ∈ wordRanges, 0xA0 < r.1 ∧
    (∀ n ∈ [0x1680, 0x2028, 0x2029, 0x202F, 0x205F, 0x3000], r.2 < n ∨ n < r.1) ∧
    (r.2 < 0x2000 ∨ 0x200A < r.1) := by
  decide +kernel

theorem isBlank_of_wordRanges {c : Char} (hword : wordRanges.has c.toNat = true) :
    0xA0 < c.toNat ∧ isBlank c = false := by
  obtain ⟨r, hr, hin⟩ := List.any_eq_true.mp hword
  rw [Bool.and_eq_true, decide_eq_true_eq, decide_eq_true_eq] at hin
  obtain ⟨hlow, hsingle, hrun⟩ := wordRanges_clear r hr
  simp only [List.forall_mem_cons] at hsingle
  unfold isBlank
  generalize c.toNat = n at *
  refine ⟨by omega, ?_⟩
  simp only [Bool.or_eq_false_iff, Bool.and_eq_false_iff, decide_eq_false_iff_not]
  omega

theorem isInert_of_isWord {c : Char} (hword : isWord c = true) : IsInert c := by
  by_cases hascii : c.toNat < 0x80
  · -- a letter, a digit or the underscore
    have hcases : ∀ n < 0x80, isWord (Char.ofNat n) = true →
        n ≠ 0x22 ∧ n ≠ 0x5C ∧ n ≠ 0x60 ∧ isBlank (Char.ofNat n) = false ∧
          isControl (Char.ofNat n) = false := by
      decide +kernel
    have hc := hcases c.toNat hascii (by rwa [Char.ofNat_toNat])
    rw [Char.ofNat_toNat] at hc
    obtain ⟨hquote, hbackslash, hbacktick, hblank, hcontrol⟩ := hc
    exact
      { ne_quote := fun h => hquote (by rw [h]; rfl)
        ne_backslash := fun h => hbackslash (by rw [h]; rfl)
        ne_backtick := fun h => hbacktick (by rw [h]; rfl)
        not_blank := hblank
        not_control := hcontrol }
  · have hranges : wordRanges.has c.toNat = true := by
      unfold isWord at hword
      rwa [if_neg hascii] at hword
    obtain ⟨hlow, hblank⟩ := isBlank_of_wordRanges hranges
    have hne : ∀ d : Char, d.toNat < 0x80 → c ≠ d := by
      rintro d hd rfl
      exact hascii hd
    exact
      { ne_quote := hne _ (by decide)
        ne_backslash := hne _ (by decide)
        ne_backtick := hne _ (by decide)
        not_blank := hblank
        not_control := by
          simp only [isControl, Bool.or_eq_false_iff, Bool.and_eq_false_iff,
            decide_eq_false_iff_not]
          omega }

/-! ## The tables of upper case -/

/-- Whether one of the ranges holds all code points between two. -/
def Ranges.covers (ranges : Ranges) (first last : Nat) : Bool :=
  ranges.any fun r => r.1 ≤ first && last ≤ r.2

theorem Ranges.has_of_covers {ranges : Ranges} {first last n : Nat}
    (hcovers : ranges.covers first last = true) (hfirst : first ≤ n) (hlast : n ≤ last) :
    ranges.has n = true := by
  obtain ⟨r, hr, hin⟩ := List.any_eq_true.mp hcovers
  rw [Bool.and_eq_true, decide_eq_true_eq, decide_eq_true_eq] at hin
  refine List.any_eq_true.mpr ⟨r, hr, ?_⟩
  rw [Bool.and_eq_true, decide_eq_true_eq, decide_eq_true_eq]
  omega

/-- Whether a code point is a capital letter of ASCII or a word character beyond ASCII. -/
def IsWordTarget (n : Nat) : Prop :=
  (0x41 ≤ n ∧ n ≤ 0x5A) ∨ wordRanges.has n = true

instance (n : Nat) : Decidable (IsWordTarget n) :=
  inferInstanceAs (Decidable (_ ∨ _))

/-- Whether a run leads to word characters only: one range holds all that lies between its targets,
or else every single target is one. -/
def MappedRun.LeadsToWords (run : MappedRun) : Prop :=
  wordRanges.covers run.target (run.target + (run.last - run.first)) = true ∨
  ∀ k ≤ run.last - run.first, k % run.step = 0 → IsWordTarget (run.target + k)

instance (run : MappedRun) : Decidable run.LeadsToWords :=
  inferInstanceAs (Decidable (_ ∨ _))

theorem leadsToWords_of_mem_caseRuns : ∀ run ∈ caseRuns, run.LeadsToWords := by
  decide +kernel

theorem isWordTarget_of_mem_caseExpansions :
    ∀ e ∈ caseExpansions, ∀ n ∈ e.2, IsWordTarget n := by
  decide +kernel

theorem isWordTarget_of_image? {run : MappedRun} {n m : Nat} (hrun : run.LeadsToWords)
    (himage : run.image? n = some m) : IsWordTarget m := by
  unfold MappedRun.image? at himage
  split at himage
  · next hmember =>
      obtain ⟨hfirst, hlast, hstep⟩ := hmember
      rw [Option.some.injEq] at himage
      rcases hrun with hcovers | hsingle
      · exact .inr (Ranges.has_of_covers hcovers (by omega) (by omega))
      · rw [← himage]
        exact hsingle _ (by omega) hstep
  · cases himage

/-- The upper case of a word character consists of word characters. -/
theorem isWord_of_mem_upper {c d : Char} (hmem : d ∈ upper c) (hword : isWord c = true) :
    isWord d = true := by
  unfold upper at hmem
  obtain ⟨m, hm, rfl⟩ := List.mem_map.mp hmem
  have htarget : m = c.toNat ∨ IsWordTarget m := by
    refine eq_or_of_mem_upperCode ?_ ?_ isWordTarget_of_mem_caseExpansions hm
    · intro m hlow hhigh
      exact .inl ⟨hlow, hhigh⟩
    · intro run hrun n m himage
      exact isWordTarget_of_image? (leadsToWords_of_mem_caseRuns run hrun) himage
  rcases mem_upperCode hm with hsame | hupper
  · rwa [hsame, Char.ofNat_toNat]
  · have hscalar := toNat_ofNat_of_isUpperTarget hupper
    rcases htarget with hsame | ⟨hlow, hhigh⟩ | hranges
    · rwa [hsame, Char.ofNat_toNat]
    · have hcapital : ∀ m < 0x5B, 0x41 ≤ m → isWord (Char.ofNat m) = true := by decide +kernel
      exact hcapital m (by omega) hlow
    · have hbeyond : 0xA0 < m := by
        rw [← hscalar] at hranges
        have hclear := (isBlank_of_wordRanges hranges).1
        rwa [hscalar] at hclear
      unfold isWord
      rw [hscalar, if_neg (by omega)]
      exact hranges

end OperatorNames.Text
