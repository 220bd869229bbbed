import OperatorNames.Proofs.Text.Normal
import OperatorNames.Proofs.Text.Utf8

/-!
# Hangul syllables in normal form

A syllable comes apart into an initial consonant, a vowel and perhaps a final consonant, and these
compose to the syllable again.  So a text of syllables is in normal form as it stands
(`normalize_eq_of_syllables`).
-/

namespace OperatorNames.Text

/-- Whether a character is a Hangul syllable. -/
def IsSyllable (c : Char) : Prop :=
  0xAC00 ≤ c.toNat ∧ c.toNat ≤ 0xD7A3

/-! ## The parts of syllables -/

/-- The initial consonant of a number. -/
def initialOf (n : Nat) : Char :=
  Char.ofNat (0x1100 + n)

/-- The vowel of a number. -/
def vowelOf (n : Nat) : Char :=
  Char.ofNat (0x1161 + n)

/-- The final consonant of a number other than zero. -/
def finalOf (n : Nat) : Char :=
  Char.ofNat (0x11A7 + n)

theorem toNat_initialOf {n : Nat} (hn : n < 19) : (initialOf n).toNat = 0x1100 + n :=
  Utf8.toNat_ofNat_scalar (.inl (by omega))

theorem toNat_vowelOf {n : Nat} (hn : n < 21) : (vowelOf n).toNat = 0x1161 + n :=
  Utf8.toNat_ofNat_scalar (.inl (by omega))

theorem toNat_finalOf {n : Nat} (hn : n < 28) : (finalOf n).toNat = 0x11A7 + n :=
  Utf8.toNat_ofNat_scalar (.inl (by omega))

/-- The syllable of three parts. -/
def syllableOf (l v f : Nat) : Char :=
  Char.ofNat (0xAC00 + (l * 21 + v) * 28 + f)

theorem toNat_syllableOf {l v f : Nat} (hl : l < 19) (hv : v < 21) (hf : f < 28) :
    (syllableOf l v f).toNat = 0xAC00 + (l * 21 + v) * 28 + f :=
  Utf8.toNat_ofNat_scalar (.inl (by omega))

/-- Each syllable has three parts. -/
theorem IsSyllable.exists_parts {c : Char} (hc : IsSyllable c) :
    ∃ l v f, l < 19 ∧ v < 21 ∧ f < 28 ∧ c = syllableOf l v f := by
  obtain ⟨hfrom, hto⟩ := hc
  refine ⟨(c.toNat - 0xAC00) / 588, (c.toNat - 0xAC00) / 28 % 21, (c.toNat - 0xAC00) % 28,
    by omega, by omega, by omega, ?_⟩
  have hsum : 0xAC00 + ((c.toNat - 0xAC00) / 588 * 21 + (c.toNat - 0xAC00) / 28 % 21) * 28
      + (c.toNat - 0xAC00) % 28 = c.toNat := by
    omega
  rw [syllableOf, hsum, Char.ofNat_toNat]

section

variable {l v f : Nat}

theorem syllable?_syllableOf (hl : l < 19) (hv : v < 21) (hf : f < 28) :
    syllable? (syllableOf l v f).toNat = some ((l * 21 + v) * 28 + f) := by
  rw [toNat_syllableOf hl hv hf, syllable?, if_pos (by simp only [hangul]; omega)]
  exact congrArg some (by simp only [hangul]; omega)

theorem decomposeChar_syllableOf (hl : l < 19) (hv : v < 21) (hf : f < 28) :
    decomposeChar (syllableOf l v f)
      = initialOf l :: vowelOf v :: (if f = 0 then [] else [finalOf f]) := by
  have hlarge : ¬ (syllableOf l v f).toNat < 0x80 := by
    rw [toNat_syllableOf hl hv hf]
    omega
  have hinitial : ((l * 21 + v) * 28 + f) / (21 * 28) = l := by omega
  have hvowel : ((l * 21 + v) * 28 + f) / 28 % 21 = v := by omega
  have hfinal : ((l * 21 + v) * 28 + f) % 28 = f := by omega
  rw [decomposeChar]
  dsimp only
  rw [if_neg hlarge, syllable?_syllableOf hl hv hf]
  simp only [hangul, hinitial, hvowel, hfinal]
  rfl

/-! ## How the parts compose -/

/-- No class but zero is given to the parts of syllables. -/
theorem classRuns_clear : ∀ run ∈ classRuns, run.last < 0x1100 ∨ 0x11FF < run.first := by
  decide +kernel

theorem combiningClass_of_part {c : Char} (hfrom : 0x1100 ≤ c.toNat) (hto : c.toNat ≤ 0x11FF) :
    combiningClass c = 0 := by
  have hnone : classRuns.findSome? (·.class? c.toNat) = none := by
    rw [List.findSome?_eq_none_iff]
    intro run hrun
    have hclear := classRuns_clear run hrun
    exact if_neg (by omega)
  rw [combiningClass, hnone, if_neg (by omega)]
  rfl

/-- A syllable does not compose with the initial consonant of the next one. -/
theorem composePair?_initialOf {b : Char} (hb : IsSyllable b) (hl : l < 19) :
    composePair? b (initialOf l) = none := by
  obtain ⟨k, w, g, hk, hw, hg, rfl⟩ := hb.exists_parts
  unfold composePair?
  dsimp only
  rw [syllable?_syllableOf hk hw hg, toNat_syllableOf hk hw hg, toNat_initialOf hl,
    if_neg (by omega), if_neg (by simp only [hangul]; omega)]
  exact if_neg (by simp only [hangul]; omega)

theorem composePair?_vowelOf (hl : l < 19) (hv : v < 21) :
    composePair? (initialOf l) (vowelOf v) = some (syllableOf l v 0) := by
  unfold composePair?
  dsimp only
  rw [toNat_initialOf hl, toNat_vowelOf hv, if_neg (by omega),
    if_pos (by simp only [hangul]; omega)]
  refine congrArg some (congrArg Char.ofNat ?_)
  simp only [hangul]
  omega

theorem composePair?_finalOf (hl : l < 19) (hv : v < 21) (hf : f < 28) (hpos : f ≠ 0) :
    composePair? (syllableOf l v 0) (finalOf f) = some (syllableOf l v f) := by
  unfold composePair?
  dsimp only
  rw [syllable?_syllableOf hl hv (by decide), toNat_syllableOf hl hv (by decide),
    toNat_finalOf hf, if_neg (by omega), if_neg (by simp only [hangul]; omega)]
  dsimp only
  rw [if_pos (by simp only [hangul]; omega)]
  refine congrArg some (congrArg Char.ofNat ?_)
  simp only [hangul]
  omega

end

theorem combiningClass_of_mem_decomposeChar {d : Char} (hd : IsSyllable d) :
    ∀ c ∈ decomposeChar d, combiningClass c = 0 := by
  obtain ⟨l, v, f, hl, hv, hf, rfl⟩ := hd.exists_parts
  have hinitial := toNat_initialOf hl
  have hvowel := toNat_vowelOf hv
  have hfinal := toNat_finalOf hf
  rw [decomposeChar_syllableOf hl hv hf, List.forall_mem_cons, List.forall_mem_cons]
  refine ⟨combiningClass_of_part (by omega) (by omega),
    combiningClass_of_part (by omega) (by omega), ?_⟩
  split
  · exact List.forall_mem_nil _
  · exact List.forall_mem_singleton.mpr (combiningClass_of_part (by omega) (by omega))

/-- The parts of a syllable compose to the syllable, and to nothing with the one before. -/
theorem foldl_decomposeChar {c : Char} (hc : IsSyllable c) {done : Text} {base : Option Char}
    (hbase : ∀ b, base = some b → IsSyllable b) :
    (decomposeChar c).foldl Composition.step (.atBase done base)
      = .atBase (base.toList ++ done) (some c) := by
  obtain ⟨l, v, f, hl, hv, hf, rfl⟩ := hc.exists_parts
  have hinitial := toNat_initialOf hl
  have hclass : combiningClass (initialOf l) = 0 :=
    combiningClass_of_part (by omega) (by omega)
  rw [decomposeChar_syllableOf hl hv hf, List.foldl_cons, List.foldl_cons,
    Composition.step_atBase hclass fun b hb => composePair?_initialOf (hbase b hb) hl,
    Composition.step_atBase_of_pair (composePair?_vowelOf hl hv)]
  by_cases hpos : f = 0
  · rw [if_pos hpos, hpos]
    rfl
  · rw [if_neg hpos, List.foldl_cons,
      Composition.step_atBase_of_pair (composePair?_finalOf hl hv hf hpos)]
    rfl

theorem recomposes_syllables : Recomposes IsSyllable where
  class_eq _ hc := combiningClass_of_mem_decomposeChar hc
  foldl_eq _ hc _ _ hbase := foldl_decomposeChar hc hbase

/-- A text of syllables is in normal form. -/
theorem normalize_eq_of_syllables {t : Text} (ht : ∀ c ∈ t, IsSyllable c) : normalize t = t :=
  recomposes_syllables.normalize_eq ht

end OperatorNames.Text
