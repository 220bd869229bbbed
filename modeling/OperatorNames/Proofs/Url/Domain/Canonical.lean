import OperatorNames.Proofs.Results
import OperatorNames.Proofs.Text.Normal
import OperatorNames.Proofs.Text.Pieces
import OperatorNames.Proofs.Url.Domain.Direction
import OperatorNames.Proofs.Url.Domain.Punycode
import OperatorNames.Proofs.Url.Percent
import OperatorNames.Url.Domain.Basic

/-!
# The form in which domain names are looked up

The form in which a name is looked up consists of characters of ASCII that can be seen, none of them
a capital letter or a sign that divides an address (`IsLookup`).  It has a form of its own, which is
itself (`toAscii?_lookup`): what a name comes to is found in one step.  The one exception is a label
whose encoded form is longer than what is decoded (`IsShort`).
-/

namespace OperatorNames.Domain

open Text

/-- The form in which labels are looked up, if they may stand together. -/
def ofLabels? (labels : List Text) : Option Text :=
  let keepTogether :=
    !labels.any hasRightToLeft || labels.all fun label => keepsDirection (label.map direction)
  if labels.all isAllowed && keepTogether then
    let ascii := joinWith ['.'] (labels.map asciiLabel)
    if ascii.any isForbidden then none else some ascii
  else none

theorem toAscii?_eq (name : Text) :
    toAscii? name = (mapText name).bind fun mapped =>
      ((cutAt (· = '.') (normalize mapped)).mapM plainLabel?).bind ofLabels? :=
  rfl

theorem of_ofLabels?_eq_some {labels : List Text} {ascii : Text}
    (hascii : ofLabels? labels = some ascii) :
    (∀ label ∈ labels, isAllowed label = true) ∧ ascii = joinWith ['.'] (labels.map asciiLabel)
      ∧ ∀ c ∈ ascii, isForbidden c = false := by
  obtain ⟨hallowed, hjoined⟩ := Option.ite_none_right_eq_some.mp hascii
  obtain ⟨hplain, hjoined⟩ := Option.ite_none_left_eq_some.mp hjoined
  rw [Option.some.inj hjoined] at hplain
  refine ⟨List.all_eq_true.mp (Bool.and_eq_true_iff.mp hallowed).1, (Option.some.inj hjoined).symm,
    fun c hc => ?_⟩
  rw [Bool.not_eq_true, List.any_eq_false] at hplain
  exact Bool.not_eq_true _ ▸ hplain c hc

/-! ## Characters -/

/-- Whether a character is one of ASCII that the mapping of names keeps: no capital letter. -/
def IsKept (c : Char) : Prop :=
  c.toNat < 0x80 ∧ isValid c = true

instance : DecidablePred IsKept :=
  fun c => inferInstanceAs (Decidable (c.toNat < 0x80 ∧ isValid c = true))

theorem IsKept.of_lower {c : Char} (hascii : c.toNat < 0x80) (hlower : ¬ ('A' ≤ c ∧ c ≤ 'Z')) :
    IsKept c := by
  refine ⟨hascii, ?_⟩
  rw [isValid, if_pos hascii, ← Bool.decide_and, decide_eq_false hlower]
  rfl

theorem IsKept.lowerAscii_eq {c : Char} (hc : IsKept c) : lowerAscii c = c := by
  obtain ⟨hascii, hvalid⟩ := hc
  rw [isValid, if_pos hascii, Bool.not_eq_true', Bool.and_eq_false_iff] at hvalid
  rw [lowerAscii, if_neg]
  rintro ⟨hfrom, hto⟩
  rcases hvalid with hbefore | hafter
  · exact of_decide_eq_false hbefore hfrom
  · exact of_decide_eq_false hafter hto

theorem isKept_mark : ∀ c ∈ encodedMark, IsKept c :=
  forall_mem_of_all (by decide)

theorem isKept_of_isDigit {c : Char} (hc : Punycode.IsDigit c) : IsKept c :=
  hc.forall_of (P := IsKept) (by decide)

/-- What is kept is mapped to itself. -/
theorem mapText_eq_self {t : Text} (ht : ∀ c ∈ t, IsKept c) : mapText t = some t := by
  have hsame : ∀ c ∈ t, mapChar c = some [c] := by
    intro c hc
    have hkept := ht c hc
    rw [mapChar, if_pos hkept.1, hkept.lowerAscii_eq]
  rw [mapText, mapM_eq_some_map hsame, Option.map_some, ← List.flatMap_def, List.flatMap_singleton']

/-! ## Labels -/

/-- Whether labels are what a name has been taken apart into. -/
structure AreLabels (labels : List Text) : Prop where
  /-- There is one at least. -/
  ne_nil : labels ≠ []
  /-- A point ends a label. -/
  point : ∀ label ∈ labels, '.' ∉ label
  /-- A label of ASCII is not one that is to be decoded. -/
  plain : ∀ label ∈ labels, isAscii label = true → dropStart? encodedMark label = none

theorem areLabels_of_mapM {pieces labels : List Text} (hne : pieces ≠ [])
    (hpieces : ∀ piece ∈ pieces, '.' ∉ piece) (hlabels : pieces.mapM plainLabel? = some labels) :
    AreLabels labels := by
  have hlength := length_of_mapM hlabels
  have hfrom : ∀ label ∈ labels, '.' ∉ label
      ∧ (isAscii label = true → dropStart? encodedMark label = none) := by
    intro label hlabel
    obtain ⟨piece, hpiece, hread⟩ := exists_of_mem_mapM hlabels label hlabel
    rw [plainLabel?] at hread
    split at hread
    · next hdrop =>
        rw [← Option.some.inj hread]
        exact ⟨hpieces piece hpiece, fun _ => hdrop⟩
    · next encoded hdrop =>
        obtain ⟨-, hdecode⟩ := Option.ite_none_left_eq_some.mp hread
        obtain ⟨plain, hplain, hother⟩ := Option.bind_eq_some_iff.mp hdecode
        obtain ⟨hother, hsame⟩ := Option.ite_none_left_eq_some.mp hother
        rw [← Option.some.inj hsame]
        refine ⟨fun hpoint => ?_, fun hascii => absurd hascii hother⟩
        rcases Punycode.mem_of_decode? hplain hpoint with hencoded | hlarge
        · refine hpieces piece hpiece ?_
          rw [dropStart?_eq_some hdrop]
          exact List.mem_append_right _ hencoded
        · exact absurd hlarge (by decide)
  exact
    { ne_nil := fun h => by
        rw [h] at hlength
        exact hne (List.eq_nil_of_length_eq_zero hlength.symm)
      point := fun label hlabel => (hfrom label hlabel).1
      plain := fun label hlabel => (hfrom label hlabel).2 }

theorem isKept_asciiLabel {label : Text} (hallowed : isAllowed label = true) :
    ∀ c ∈ asciiLabel label, IsKept c := by
  have hvalid : ∀ c ∈ label, isValid c = true :=
    List.all_eq_true.mp (Bool.and_eq_true_iff.mp hallowed).1
  intro c hc
  unfold asciiLabel at hc
  split at hc
  · next hascii => exact ⟨of_decide_eq_true (List.all_eq_true.mp hascii c hc), hvalid c hc⟩
  · rcases List.mem_append.mp hc with hmark | hencoded
    · exact isKept_mark c hmark
    · rcases Punycode.mem_encode hencoded with ⟨hmem, hliteral⟩ | rfl | hdigit
      · exact ⟨hliteral, hvalid c hmem⟩
      · exact .of_lower (by decide) (by decide)
      · exact isKept_of_isDigit hdigit

theorem point_not_mem_asciiLabel {label : Text} (hpoint : '.' ∉ label) :
    '.' ∉ asciiLabel label := by
  unfold asciiLabel
  split
  · exact hpoint
  · intro hmem
    rcases List.mem_append.mp hmem with hmark | hencoded
    · exact absurd hmark (by decide)
    · rcases Punycode.mem_encode hencoded with ⟨hlabel, -⟩ | hhyphen | hdigit
      · exact hpoint hlabel
      · exact absurd hhyphen (by decide)
      · exact hdigit.forall_of (P := fun c => c ≠ '.') (by decide) rfl

/-- A label is found again in its ASCII form. -/
theorem plainLabel?_asciiLabel {label : Text}
    (hplain : isAscii label = true → dropStart? encodedMark label = none)
    (hshort : ∀ encoded, dropStart? encodedMark (asciiLabel label) = some encoded →
      encoded.length ≤ longestEncoded) :
    plainLabel? (asciiLabel label) = some label := by
  unfold asciiLabel at hshort ⊢
  split
  · next hascii => rw [plainLabel?, hplain hascii]
  · next hother =>
      rw [if_neg hother] at hshort
      have hdrop : dropStart? encodedMark (encodedMark ++ Punycode.encode label)
          = some (Punycode.encode label) := rfl
      rw [plainLabel?, hdrop]
      dsimp only
      rw [if_neg (Nat.not_lt.mpr (hshort _ hdrop)), Punycode.decode?_encode, Option.bind_some,
        if_neg hother]

/-! ## Names -/

/-- Whether no label of a name has an encoded form that is too long to be decoded. -/
def IsShort (name : Text) : Prop :=
  ∀ label ∈ cutAt (· = '.') name, ∀ encoded, dropStart? encodedMark label = some encoded →
    encoded.length ≤ longestEncoded

theorem exists_areLabels {source name : Text} (hname : toAscii? source = some name) :
    ∃ labels, AreLabels labels ∧ ofLabels? labels = some name := by
  rw [toAscii?_eq] at hname
  obtain ⟨mapped, -, hlabels⟩ := Option.bind_eq_some_iff.mp hname
  obtain ⟨labels, hlabels, hname⟩ := Option.bind_eq_some_iff.mp hlabels
  have hpieces : ∀ piece ∈ cutAt (· = '.') (normalize mapped), '.' ∉ piece := by
    intro piece hpiece hpoint
    exact of_decide_eq_false (mem_of_mem_cutAt hpiece hpoint).2 rfl
  exact ⟨labels, areLabels_of_mapM (cutAt_ne_nil _ _) hpieces hlabels, hname⟩

theorem isKept_of_ofLabels? {labels : List Text} {name : Text}
    (hname : ofLabels? labels = some name) : ∀ c ∈ name, IsKept c := by
  obtain ⟨hallowed, rfl, -⟩ := of_ofLabels?_eq_some hname
  intro c hc
  rcases mem_joinWith hc with hpoint | ⟨piece, hpiece, hmem⟩
  · rw [List.mem_singleton.mp hpoint]
    exact .of_lower (by decide) (by decide)
  · obtain ⟨label, hlabel, rfl⟩ := List.mem_map.mp hpiece
    exact isKept_asciiLabel (hallowed label hlabel) c hmem

/-- A name that is looked up can be seen in whole and has none of the forbidden signs. -/
theorem graphic_of_toAscii? {source name : Text} (hname : toAscii? source = some name) :
    ∀ c ∈ name, IsGraphic c ∧ isForbidden c = false := by
  obtain ⟨labels, -, hlabels⟩ := exists_areLabels hname
  obtain ⟨-, -, hallowed⟩ := of_ofLabels?_eq_some hlabels
  intro c hc
  have hascii := (isKept_of_ofLabels? hlabels c hc).1
  have hsign := hallowed c hc
  refine ⟨?_, hsign⟩
  rw [isForbidden, Bool.or_eq_false_iff, Bool.or_eq_false_iff, decide_eq_false_iff_not,
    decide_eq_false_iff_not] at hsign
  unfold IsGraphic
  omega

theorem toAscii?_eq_of_isKept {name : Text} (hkept : ∀ c ∈ name, IsKept c) :
    toAscii? name = ((cutAt (· = '.') name).mapM plainLabel?).bind ofLabels? := by
  rw [toAscii?_eq, mapText_eq_self hkept, Option.bind_some,
    normalize_eq_of_ascii fun c hc => (hkept c hc).1]

/-- A name that is looked up is the form in which it is looked up. -/
theorem toAscii?_lookup {source name : Text} (hname : toAscii? source = some name)
    (hshort : IsShort name) : toAscii? name = some name := by
  obtain ⟨labels, hare, hlabels⟩ := exists_areLabels hname
  have hkept := isKept_of_ofLabels? hlabels
  obtain ⟨-, hjoined, -⟩ := of_ofLabels?_eq_some hlabels
  have hpoints : ∀ piece ∈ labels.map asciiLabel, '.' ∉ piece := by
    intro piece hpiece
    obtain ⟨label, hlabel, rfl⟩ := List.mem_map.mp hpiece
    exact point_not_mem_asciiLabel (hare.point label hlabel)
  have hcut : cutAt (· = '.') name = labels.map asciiLabel := by
    rw [hjoined, cutAt_eq_joinWith (fun h => hare.ne_nil (List.map_eq_nil_iff.mp h)) hpoints]
  -- each label is found again, so the same labels are checked a second time
  have hagain : (labels.map asciiLabel).mapM plainLabel? = some labels := by
    refine mapM_map_of_forall fun label hlabel => ?_
    refine plainLabel?_asciiLabel (hare.plain label hlabel) (hshort (asciiLabel label) ?_)
    rw [hcut]
    exact List.mem_map_of_mem hlabel
  rw [toAscii?_eq_of_isKept hkept, hcut, hagain, Option.bind_some, hlabels]

/-- A name with a label that is too long to be decoded is refused. -/
theorem toAscii?_lookup_of_long {source name : Text} (hname : toAscii? source = some name)
    (hlong : ¬ IsShort name) : toAscii? name = none := by
  obtain ⟨labels, -, hlabels⟩ := exists_areLabels hname
  unfold IsShort at hlong
  simp only [Classical.not_forall, Nat.not_le] at hlong
  obtain ⟨label, hlabel, encoded, hdrop, hlonger⟩ := hlong
  have hnone : plainLabel? label = none := by
    rw [plainLabel?, hdrop]
    exact if_pos hlonger
  rw [toAscii?_eq_of_isKept (isKept_of_ofLabels? hlabels), mapM_eq_none_of_mem hlabel hnone]
  rfl

/-! ## Names that are written in full -/

theorem ofLabels?_of_ascii {labels : List Text}
    (hkept : ∀ label ∈ labels, ∀ c ∈ label, IsKept c ∧ isForbidden c = false) :
    ofLabels? labels = some (joinWith ['.'] labels) := by
  have hascii : ∀ label ∈ labels, isAscii label = true := fun label hlabel =>
    List.all_eq_true.mpr fun c hc => decide_eq_true (hkept label hlabel c hc).1.1
  have hallowed : labels.all isAllowed = true := List.all_eq_true.mpr fun label hlabel => by
    rw [isAllowed, hascii label hlabel, Bool.true_or, Bool.and_true]
    exact List.all_eq_true.mpr fun c hc => (hkept label hlabel c hc).1.2
  have hleft : labels.any hasRightToLeft = false := List.any_eq_false.mpr fun label hlabel => by
    rw [hasRightToLeft_eq_false fun c hc => .inl (hkept label hlabel c hc).1.1]
    exact Bool.false_ne_true
  have hsame : labels.map asciiLabel = labels := by
    conv => rhs; rw [← List.map_id labels]
    refine List.map_congr_left fun label hlabel => ?_
    rw [asciiLabel, if_pos (hascii label hlabel)]
    rfl
  have hforbidden : (joinWith ['.'] labels).any isForbidden = false :=
    List.any_eq_false.mpr fun c hc => by
      rcases mem_joinWith hc with hpoint | ⟨label, hlabel, hmem⟩
      · rw [List.mem_singleton.mp hpoint]
        decide
      · rw [(hkept label hlabel c hmem).2]
        exact Bool.false_ne_true
  unfold ofLabels?
  dsimp only
  rw [hallowed, hleft, hsame, hforbidden]
  rfl

/-- A name in small letters of ASCII is the form in which it is looked up, unless a label of it is
encoded. -/
theorem toAscii?_of_plain {name : Text} (hkept : ∀ c ∈ name, IsKept c ∧ isForbidden c = false)
    (hplain : ∀ label ∈ cutAt (· = '.') name, dropStart? encodedMark label = none) :
    toAscii? name = some name := by
  have hlabels : ∀ label ∈ cutAt (· = '.') name, plainLabel? label = some (id label) := by
    intro label hlabel
    rw [plainLabel?, hplain label hlabel]
    rfl
  have hof : ofLabels? (cutAt (· = '.') name) = some (joinWith ['.'] (cutAt (· = '.') name)) :=
    ofLabels?_of_ascii fun label hlabel c hc => hkept c (mem_of_mem_cutAt hlabel hc).1
  rw [toAscii?_eq_of_isKept fun c hc => (hkept c hc).1, mapM_eq_some_map hlabels, List.map_id,
    Option.bind_some, hof, joinWith_cutAt]

end OperatorNames.Domain
