import OperatorNames.Text.Normal.Basic

/-!
# Texts that are in normal form as they stand

A kind of characters may come apart into parts that compose to them again, do not move and compose
with nothing else (`Recomposes`).  Bringing a text of such characters into normal form changes
nothing (`Recomposes.normalize_eq`).  That is so for ASCII (`normalize_eq_of_ascii`).
-/

namespace OperatorNames.Text

/-! ## Characters that do not move -/

theorem placeMark_eq {c : Char} (hc : combiningClass c = 0) (before : Text) :
    placeMark c before = c :: before := by
  cases before with
  | nil => rfl
  | cons d before =>
      rw [placeMark, hc]
      rfl

/-- A text without marks is in order. -/
theorem orderMarks_eq {t : Text} (ht : ∀ c ∈ t, combiningClass c = 0) : orderMarks t = t := by
  have hplaced : ∀ before, t.foldl (fun done c => placeMark c done) before
      = t.reverse ++ before := by
    induction t with
    | nil => exact fun _ => rfl
    | cons c t ih =>
        rw [List.forall_mem_cons] at ht
        intro before
        rw [List.foldl_cons, placeMark_eq ht.1, ih ht.2, List.reverse_cons, List.append_assoc]
        rfl
  rw [orderMarks, hplaced, List.append_nil, List.reverse_reverse]

/-! ## Characters that compose with nothing else -/

/-- Where a composition stands after a character that nothing composes with and that no marks
follow. -/
def Composition.atBase (done : Text) (base : Option Char) : Composition :=
  { done, base, marks := [] }

/-- A character that does not compose with the one before it begins anew. -/
theorem Composition.step_atBase {done : Text} {base : Option Char} {c : Char}
    (hclass : combiningClass c = 0) (hapart : ∀ b, base = some b → composePair? b c = none) :
    (atBase done base).step c = atBase (base.toList ++ done) (some c) := by
  have hnone : (base.bind fun b => if true then composePair? b c else none) = none := by
    cases base with
    | none => rfl
    | some b => exact hapart b rfl
  unfold step atBase
  dsimp only
  rw [hnone, hclass]
  rfl

/-- A character that composes with the one before it takes its place. -/
theorem Composition.step_atBase_of_pair {done : Text} {b c whole : Char}
    (hpair : composePair? b c = some whole) :
    (atBase done (some b)).step c = atBase done (some whole) := by
  have hsome : ((some b).bind fun b => if true then composePair? b c else none) = some whole :=
    hpair
  unfold step atBase
  dsimp only
  rw [hsome]

/-- Whether the characters of a kind are composed again from what they come apart into, and only
they. -/
structure Recomposes (kind : Char → Prop) : Prop where
  /-- Their parts do not move. -/
  class_eq : ∀ c, kind c → ∀ d ∈ decomposeChar c, combiningClass d = 0
  /-- Their parts compose to them, and to nothing with the character before. -/
  foldl_eq : ∀ c, kind c → ∀ done base, (∀ b, base = some b → kind b) →
    (decomposeChar c).foldl Composition.step (.atBase done base)
      = .atBase (base.toList ++ done) (some c)

namespace Recomposes

variable {kind : Char → Prop} {t : Text}

theorem compose_eq (h : Recomposes kind) (ht : ∀ c ∈ t, kind c) :
    compose (t.flatMap decomposeChar) = t := by
  -- by induction for whatever has been composed before, since each character joins it
  have hwhole : ∀ done base, (∀ b, base = some b → kind b) →
      ((t.flatMap decomposeChar).foldl Composition.step (.atBase done base)).whole
        = t.reverse ++ (base.toList ++ done) := by
    induction t with
    | nil => exact fun _ _ _ => rfl
    | cons c t ih =>
        rw [List.forall_mem_cons] at ht
        intro done base hbase
        have hnext : ∀ b, some c = some b → kind b := fun b hb => Option.some.inj hb ▸ ht.1
        rw [List.flatMap_cons, List.foldl_append, h.foldl_eq c ht.1 done base hbase,
          ih ht.2 _ _ hnext, List.reverse_cons, List.append_assoc]
        rfl
  have hstart := hwhole [] none nofun
  change ((t.flatMap decomposeChar).foldl Composition.step {}).whole = _ at hstart
  rw [compose, hstart, Option.toList_none, List.append_nil, List.append_nil, List.reverse_reverse]

/-- A text of such characters is in normal form. -/
theorem normalize_eq (h : Recomposes kind) (ht : ∀ c ∈ t, kind c) : normalize t = t := by
  have hclasses : ∀ c ∈ t.flatMap decomposeChar, combiningClass c = 0 := by
    intro c hc
    obtain ⟨d, hd, hmem⟩ := List.mem_flatMap.mp hc
    exact h.class_eq d (ht d hd) c hmem
  rw [normalize, orderMarks_eq hclasses, h.compose_eq ht]

end Recomposes

/-! ## ASCII -/

theorem combiningClass_of_ascii {c : Char} (hc : c.toNat < 0x80) : combiningClass c = 0 := by
  rw [combiningClass, if_pos (by omega)]

theorem composePair?_of_ascii {c : Char} (hc : c.toNat < 0x80) (b : Char) :
    composePair? b c = none := by
  rw [composePair?]
  exact if_pos (by omega)

theorem decomposeChar_of_ascii {c : Char} (hc : c.toNat < 0x80) : decomposeChar c = [c] := by
  rw [decomposeChar]
  exact if_pos hc

theorem recomposes_ascii : Recomposes fun c => c.toNat < 0x80 where
  class_eq c hc := by
    rw [decomposeChar_of_ascii hc]
    exact List.forall_mem_singleton.mpr (combiningClass_of_ascii hc)
  foldl_eq c hc done base _ := by
    rw [decomposeChar_of_ascii hc]
    exact Composition.step_atBase (combiningClass_of_ascii hc) fun b _ => composePair?_of_ascii hc b

/-- A text of ASCII is in normal form. -/
theorem normalize_eq_of_ascii {t : Text} (ht : ∀ c ∈ t, c.toNat < 0x80) : normalize t = t :=
  recomposes_ascii.normalize_eq ht

end OperatorNames.Text
