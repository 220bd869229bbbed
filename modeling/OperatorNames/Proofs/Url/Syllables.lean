import OperatorNames.Proofs.Url.Domain.Spread
import OperatorNames.Proofs.Url.Domain.Syllables
import OperatorNames.Proofs.Url.Reading

/-!
# Addresses on hosts of Hangul syllables

A host of up to a thousand syllables is accepted and asked for under its encoded form
(`Url.read_syllables`), however long that form is.  Where the syllables lie far apart, it is longer
than what is decoded (`Url.not_isShort_syllables`).
-/

namespace OperatorNames.Url

open Text

variable {label : Text}

/-- The address on a host without anything else. -/
def bare (host : Host) : Url :=
  { scheme := .http, host, path := [[]] }

theorem isCanonical_bare {host : Host} (hhost : host.IsCanonical) : (bare host).IsCanonical where
  username := List.forall_mem_nil _
  password := nofun
  host := hhost
  port := nofun
  path_ne_nil := List.cons_ne_nil _ _
  step := List.forall_mem_singleton.mpr isStep_nil
  query := nofun
  fragment := nofun

/-- The form in which syllables are looked up is no number. -/
theorem endsInNumber_syllables (hne : label ≠ []) (hlabel : ∀ c ∈ label, IsSyllable c) :
    Ipv4.endsInNumber (Domain.asciiLabel label) = false := by
  have hpoint := Domain.point_not_mem_asciiLabel (Domain.point_not_mem_syllables hlabel)
  rw [Domain.asciiLabel_syllables hne hlabel] at hpoint ⊢
  exact Ipv4.endsInNumber_eq_false (by decide) (by decide) hpoint

theorem isCanonical_syllables (hne : label ≠ []) (hlabel : ∀ c ∈ label, IsSyllable c)
    (hlength : label.length ≤ Domain.longestPlain) :
    (Host.domain (Domain.asciiLabel label)).IsCanonical := by
  refine .domain (Domain.toAscii?_of_syllables hne hlabel hlength) ?_
    (endsInNumber_syllables hne hlabel)
  rw [Domain.asciiLabel_syllables hne hlabel]
  exact List.cons_ne_nil _ _

theorem not_isShort_syllables (hne : label ≠ []) (hlabel : ∀ c ∈ label, IsSyllable c)
    (hspread : Domain.Punycode.IsSpread label) (hmany : 732 ≤ label.length) :
    ¬ (Host.domain (Domain.asciiLabel label)).IsShort := by
  intro hshort
  have hcut : cutAt (· = '.') (Domain.asciiLabel label) = [Domain.asciiLabel label] :=
    cutAt_eq_singleton fun c hc => decide_eq_false fun h =>
      Domain.point_not_mem_asciiLabel (Domain.point_not_mem_syllables hlabel) (h ▸ hc)
  have hencoded : dropStart? Domain.encodedMark (Domain.asciiLabel label)
      = some (Domain.Punycode.encode label) := by
    rw [Domain.asciiLabel_syllables hne hlabel]
    rfl
  have hdecoded : (Domain.Punycode.encode label).length ≤ 2000 :=
    hshort _ (hcut ▸ List.mem_singleton_self _) _ hencoded
  have hlarge : ∀ c ∈ label, Domain.Punycode.firstCode + 13 ≤ c.toNat := fun c hc =>
    Nat.le_trans (by decide) (hlabel c hc).1
  have hlength := Domain.Punycode.length_encode hspread hlarge
  omega

theorem ascii_not_mem_syllables (hlabel : ∀ c ∈ label, IsSyllable c) {c : Char}
    (hc : c.toNat < 0x80) : c ∉ label :=
  fun hmem => Domain.not_ascii_of_syllable (hlabel c hmem) hc

theorem isHostText_syllables (hne : label ≠ []) (hlabel : ∀ c ∈ label, IsSyllable c) :
    IsHostText label where
  ne_nil := hne
  ends c hc hend := by
    have hascii : ∀ c ∈ Host.ends, c.toNat < 0x80 := forall_mem_of_all (by decide)
    exact ascii_not_mem_syllables hlabel (hascii c hend) hc
  cut := cutHost_plain (ascii_not_mem_syllables hlabel (by decide))
    (ascii_not_mem_syllables hlabel (by decide))

theorem isInk_syllable {c : Char} (hc : IsSyllable c) : IsInk c := by
  unfold IsSyllable at hc
  unfold IsInk isBlank
  simp only [Bool.or_eq_false_iff, Bool.and_eq_false_iff, decide_eq_false_iff_not]
  omega

theorem readHost_syllables (hne : label ≠ []) (hlabel : ∀ c ∈ label, IsSyllable c)
    (hlength : label.length ≤ Domain.longestPlain) :
    Host.read label = .ok (.domain (Domain.asciiLabel label)) := by
  have hname : Domain.asciiLabel label ≠ [] := by
    rw [Domain.asciiLabel_syllables hne hlabel]
    exact List.cons_ne_nil _ _
  rw [Host.read_eq_named (ascii_not_mem_syllables hlabel (by decide)), Host.named,
    Host.lookup_eq (ascii_not_mem_syllables hlabel (by decide)),
    Domain.toAscii?_of_syllables hne hlabel hlength]
  dsimp only
  rw [List.isEmpty_eq_false_iff.mpr hname, endsInNumber_syllables hne hlabel]
  rfl

/-- An address on a host of syllables is accepted. -/
theorem read_syllables (hne : label ≠ []) (hlabel : ∀ c ∈ label, IsSyllable c)
    (hlength : label.length ≤ Domain.longestPlain) :
    Url.read ("http://".toList ++ label ++ ['/'])
      = .ok (bare (.domain (Domain.asciiLabel label))) := by
  have hu := isCanonical_bare (isCanonical_syllables hne hlabel hlength)
  have hread := read_writeAt hu (isHostText_syllables hne hlabel) fun c hc =>
    isInk_syllable (hlabel c hc)
  rw [readHost_syllables hne hlabel hlength] at hread
  have hwritten : opening .http ++ (bare (.domain (Domain.asciiLabel label))).writeAt label
      = "http://".toList ++ label ++ ['/'] := by
    simp [opening, Scheme.name, bare, writeAt, credentials, portText, afterAuthority, pathText,
      announced]
  rw [← hwritten]
  exact hread

end OperatorNames.Url
