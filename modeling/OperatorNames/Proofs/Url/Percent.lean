import OperatorNames.Proofs.Text.Utf8
import OperatorNames.Url.Percent

/-!
# Encoded parts of addresses

Each part of an address has its own set of characters that are encoded.  All of these sets have in
common (`IsEscapeSet`) that they hold what cannot be seen and leave out what encoding writes.  So an
encoded part can be seen in whole (`Encoded.graphic`), and encoding it once more leaves it as it is
(`Encoded.encode_eq`).
-/

namespace OperatorNames

/-- Whether a character is one of ASCII that can be seen: no control character and no blank. -/
def Text.IsGraphic (c : Char) : Prop :=
  0x21 ≤ c.toNat ∧ c.toNat ≤ 0x7E

instance : DecidablePred Text.IsGraphic :=
  fun c => inferInstanceAs (Decidable (0x21 ≤ c.toNat ∧ c.toNat ≤ 0x7E))

namespace Percent

open Text

/-- What the sets of characters that are encoded have in common. -/
structure IsEscapeSet (escaped : Char → Bool) : Prop where
  /-- What cannot be seen is encoded. -/
  hidden : ∀ c, ¬ IsGraphic c → escaped c = true
  /-- A percent sign stays. -/
  percent : escaped '%' = false
  /-- The digits after a percent sign stay. -/
  digit : ∀ n < 16, escaped (upperHexDigit n) = false

theorem isControl_or_blank {c : Char} (hc : ¬ IsGraphic c) : isControl c = true ∨ c = ' ' := by
  unfold IsGraphic at hc
  by_cases hblank : c = ' '
  · exact .inr hblank
  · have hne : c.toNat ≠ 0x20 := fun h => hblank (Char.toNat_inj.mp h)
    rw [isControl, Bool.or_eq_true, decide_eq_true_eq, decide_eq_true_eq]
    exact .inl (by omega)

theorem isEscapeSet_inFragment : IsEscapeSet inFragment where
  hidden c hc := by
    rcases isControl_or_blank hc with hcontrol | rfl
    · rw [inFragment, hcontrol, Bool.true_or]
    · decide
  percent := by decide
  digit := by decide

theorem isEscapeSet_inPath : IsEscapeSet inPath where
  hidden c hc := by
    rw [inPath, isEscapeSet_inFragment.hidden c hc, Bool.true_or]
  percent := by decide
  digit := by decide

theorem isEscapeSet_inCredentials : IsEscapeSet inCredentials where
  hidden c hc := by
    rw [inCredentials, isEscapeSet_inPath.hidden c hc, Bool.true_or]
  percent := by decide
  digit := by decide

theorem isEscapeSet_inQuery : IsEscapeSet inQuery where
  hidden c hc := by
    rcases isControl_or_blank hc with hcontrol | rfl
    · rw [inQuery, hcontrol, Bool.true_or]
    · decide
  percent := by decide
  digit := by decide

/-- Whether a part of an address has no character left that would be encoded. -/
def Encoded (escaped : Char → Bool) (t : Text) : Prop :=
  ∀ c ∈ t, escaped c = false

variable {escaped : Char → Bool}

/-- What an encoded part is made of: characters that stay, percent signs and digits. -/
theorem mem_encode {t : Text} {c : Char} (hc : c ∈ encode escaped t) :
    (c ∈ t ∧ escaped c = false) ∨ c = '%' ∨ ∃ n < 16, c = upperHexDigit n := by
  obtain ⟨d, hd, hmem⟩ := List.mem_flatMap.mp hc
  by_cases hescaped : escaped d = true
  · rw [if_pos hescaped] at hmem
    obtain ⟨octet, -, hdigits⟩ := List.mem_flatMap.mp hmem
    have hoctet : octet.toNat < 256 := octet.toNat_lt
    rw [encodeOctet, List.mem_cons, List.mem_cons, List.mem_singleton] at hdigits
    obtain hpercent | hhigh | hlow := hdigits
    · exact .inr (.inl hpercent)
    · exact .inr (.inr ⟨_, by omega, hhigh⟩)
    · exact .inr (.inr ⟨_, by omega, hlow⟩)
  · rw [if_neg hescaped, List.mem_singleton] at hmem
    subst hmem
    exact .inl ⟨hd, Bool.not_eq_true _ ▸ hescaped⟩

theorem IsEscapeSet.encoded_encode (hset : IsEscapeSet escaped) (t : Text) :
    Encoded escaped (encode escaped t) := by
  intro c hc
  rcases mem_encode hc with ⟨-, hstays⟩ | rfl | ⟨n, hn, rfl⟩
  · exact hstays
  · exact hset.percent
  · exact hset.digit n hn

/-- An encoded part is encoded no further. -/
theorem Encoded.encode_eq {t : Text} (ht : Encoded escaped t) : encode escaped t = t := by
  induction t with
  | nil => rfl
  | cons c t ih =>
      have hc := ht c List.mem_cons_self
      have hrest := ih fun d hd => ht d (List.mem_cons_of_mem c hd)
      rw [encode, List.flatMap_cons, hc, if_neg Bool.false_ne_true]
      exact congrArg (c :: ·) hrest

/-- An encoded part can be seen in whole. -/
theorem Encoded.graphic (hset : IsEscapeSet escaped) {t : Text} (ht : Encoded escaped t) :
    ∀ c ∈ t, IsGraphic c := by
  intro c hc
  refine Classical.byContradiction fun hhidden => ?_
  have hescaped := hset.hidden c hhidden
  rw [ht c hc] at hescaped
  cases hescaped

theorem Encoded.not_mem {t : Text} {c : Char} (ht : Encoded escaped t) (hc : escaped c = true) :
    c ∉ t := by
  intro hmem
  rw [ht c hmem] at hc
  cases hc

/-- Encoding leaves out nothing. -/
theorem encode_ne_nil {t : Text} (ht : t ≠ []) : encode escaped t ≠ [] := by
  cases t with
  | nil => exact absurd rfl ht
  | cons c t =>
      have hfirst : (if escaped c then (Utf8.encodeChar c).flatMap encodeOctet else [c]) ≠ [] := by
        split
        · unfold Utf8.encodeChar
          dsimp only
          split
          · exact List.cons_ne_nil _ _
          · split
            · exact List.cons_ne_nil _ _
            · split <;> exact List.cons_ne_nil _ _
        · exact List.cons_ne_nil _ _
      rw [encode, List.flatMap_cons]
      exact List.append_ne_nil_of_left_ne_nil hfirst _

/-! ## Decoding where nothing is encoded -/

theorem decodeOctets_eq {b : Bytes} (hb : 0x25 ∉ b) : decodeOctets b = b := by
  induction b using decodeOctets.induct with
  | case1 => rfl
  | case2 a b rest high hhigh low hlow ih => exact absurd List.mem_cons_self hb
  | case3 a b rest hdigits ih => exact absurd List.mem_cons_self hb
  | case4 octet rest hother ih =>
      rw [decodeOctets, ih fun h => hb (List.mem_cons_of_mem octet h)]
      exact hother

/-- A text without a percent sign is decoded to itself. -/
theorem decode_decodeOctets {t : Text} (ht : '%' ∉ t) :
    Utf8.decode (decodeOctets (Utf8.encode t)) = some t := by
  have hcount : (Utf8.encode t).count 0x25 = 0 := by
    rw [Utf8.count_encode (by decide), List.count_eq_zero]
    exact ht
  rw [decodeOctets_eq (List.count_eq_zero.mp hcount), Utf8.decode_encode]

end Percent

end OperatorNames
