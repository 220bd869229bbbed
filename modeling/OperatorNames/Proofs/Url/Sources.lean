import OperatorNames.Proofs.Fetch.Body
import OperatorNames.Proofs.Transfer.Requests
import OperatorNames.Proofs.Url.Syllables

/-!
# Sources of documents

Whatever text is taken for the address of a document, what is asked for is the address in its one
proper form.  Nothing in that form can be mistaken for a part of the request that carries it
(`graphic_of_read`), and it names the same document as the text (`read_again`).
-/

namespace OperatorNames.Url

open Text Transfer

/-! ## Requests -/

/-- **Nothing in an address that has been accepted can be mistaken for a part of the request.**  It
is written in characters of ASCII that can be seen, with one of the two schemes in front and with a
host; and the line that opens the request for it has three words and no line end in it, whatever the
text held. -/
theorem graphic_of_read {raw : Text} {u : Url} (hread : Url.read raw = .ok u) :
    (∀ c ∈ u.write, 0x21 ≤ c.toNat ∧ c.toNat ≤ 0x7E)
      ∧ ("http://".toList <+: u.write ∨ "https://".toList <+: u.write)
      ∧ u.host.write ≠ []
      ∧ (∀ c ∈ ['\x00', ' ', '\r', '\n'], c ∉ u.write)
      ∧ ∀ a, Address.ofUrl u = .ok a →
        (∀ c ∈ a.target, 0x21 ≤ c.toNat ∧ c.toNat ≤ 0x7E)
          ∧ cutAt (· = ' ') a.requestLine = ["GET".toList, a.target, "HTTP/1.1".toList]
          ∧ ∀ c ∈ ['\r', '\n'], c ∉ a.requestLine := by
  have hu := isCanonical_of_read hread
  have hhidden : ∀ c ∈ ['\x00', ' ', '\r', '\n'], ¬ IsGraphic c := forall_mem_of_all (by decide)
  refine ⟨hu.graphic_write, ?_, Host.write_ne_nil hu.host,
    fun c hc hmem => hhidden c hc (hu.graphic_write c hmem), fun a ha => ?_⟩
  · rw [write_eq]
    cases u.scheme with
    | http => exact .inl (List.prefix_append _ _)
    | https => exact .inr (List.prefix_append _ _)
  · have htarget := hu.graphic_ofUrl ha
    have hplain := Address.opensPlainly_of_graphic htarget
    exact ⟨htarget, hplain.words, hplain.unbroken⟩

/-- An address written with as little care as is accepted. -/
def crooked : Text :=
  "\thT\nTp:\\\\us er:p\"w@EXAMPLE.Com:080\\a b/.\\..//c\u00e9\x00\"d?q r'\r\n<#f\x7f`g".toList

/-- What the crooked address is accepted as. -/
def crookedUrl : Url :=
  { scheme := .http
    username := "us%20er".toList
    password := some "p%22w".toList
    host := .domain "example.com".toList
    path := [[], "c%C3%A9%00%22d".toList]
    query := some "q%20r%27%3C".toList
    fragment := some "f%7F%60g".toList }

/-- Where the crooked address is asked for. -/
def crookedAddress : Address :=
  { scheme := .http
    host := "example.com".toList
    port := 80
    path := "//c%C3%A9%00%22d".toList
    query := some "q%20r%27%3C".toList }

theorem read_crooked : Url.read crooked = .ok crookedUrl := by
  have hread : (Url.read crooked).toOption = some crookedUrl := by
    decide +kernel
  exact eq_ok_of_toOption hread

/-- Blanks, quotes, line ends and a NUL do not get into the request. -/
theorem graphic_of_read_crooked :
    (∀ c ∈ crookedUrl.write, 0x21 ≤ c.toNat ∧ c.toNat ≤ 0x7E)
      ∧ ("http://".toList <+: crookedUrl.write ∨ "https://".toList <+: crookedUrl.write)
      ∧ crookedUrl.host.write ≠ []
      ∧ (∀ c ∈ ['\x00', ' ', '\r', '\n'], c ∉ crookedUrl.write)
      ∧ cutAt (· = ' ') crookedAddress.requestLine =
        ["GET".toList, "//c%C3%A9%00%22d?q%20r%27%3C".toList, "HTTP/1.1".toList] := by
  have haddress : (Address.ofUrl crookedUrl).toOption = some crookedAddress := by
    decide +kernel
  obtain ⟨hgraphic, hscheme, hhost, hhidden, hrequest⟩ := graphic_of_read read_crooked
  exact ⟨hgraphic, hscheme, hhost, hhidden, (hrequest _ (eq_ok_of_toOption haddress)).2.1⟩

/-! ## A name that is accepted in one form only -/

/-- Seven hundred and forty syllables, each the fourteenth after the one before. -/
def longLabel : Text :=
  (List.range 740).map fun i => Char.ofNat (0xAC00 + 14 * i)

/-- An address on a host of one long label. -/
def longAddress : Text :=
  "http://".toList ++ longLabel ++ ['/']

/-- What the long address is accepted as. -/
def longUrl : Url :=
  bare (.domain (Domain.asciiLabel longLabel))

theorem toNat_of_mem_range {i : Nat} (hi : i < 740) :
    (Char.ofNat (0xAC00 + 14 * i)).toNat = 0xAC00 + 14 * i :=
  Utf8.toNat_ofNat_scalar (.inl (by omega))

theorem isSyllable_longLabel : ∀ c ∈ longLabel, IsSyllable c := by
  intro c hc
  obtain ⟨i, hi, rfl⟩ := List.mem_map.mp hc
  have hvalue := toNat_of_mem_range (List.mem_range.mp hi)
  have hlt := List.mem_range.mp hi
  unfold IsSyllable
  omega

theorem length_longLabel : longLabel.length = 740 := by
  rw [longLabel, List.length_map, List.length_range]

theorem isSpread_longLabel : Domain.Punycode.IsSpread longLabel := by
  refine List.pairwise_map.mpr (List.pairwise_lt_range.imp_of_mem fun {i j} hi hj hlt => ?_)
  rw [toNat_of_mem_range (List.mem_range.mp hi), toNat_of_mem_range (List.mem_range.mp hj)]
  omega

theorem longLabel_ne_nil : longLabel ≠ [] :=
  List.ne_nil_of_length_pos (by rw [length_longLabel]; decide)

theorem read_longAddress : Url.read longAddress = .ok longUrl :=
  read_syllables longLabel_ne_nil isSyllable_longLabel (by rw [length_longLabel]; decide)

theorem isCanonical_longUrl : longUrl.IsCanonical :=
  isCanonical_of_read read_longAddress

theorem not_isShort_longUrl : ¬ longUrl.host.IsShort :=
  not_isShort_syllables longLabel_ne_nil isSyllable_longLabel isSpread_longLabel
    (by rw [length_longLabel]; decide)

/-! ## Reading once more -/

/-- White space around a text is left out. -/
theorem trim_append {before after : Text} (hbefore : ∀ c ∈ before, isBlank c = true)
    (hafter : ∀ c ∈ after, isBlank c = true) (t : Text) : trim (before ++ t ++ after) = trim t := by
  have hends : ∀ c ∈ after.reverse, isBlank c = true := fun c hc =>
    hafter c (List.mem_reverse.mp hc)
  unfold trim stripEnds
  rw [List.append_assoc, List.dropWhile_append_of_pos hbefore, List.dropWhile_append]
  split
  · next hempty =>
      -- there is nothing but white space
      have hnone : after.dropWhile isBlank = [] := by
        rw [← List.append_nil after, List.dropWhile_append_of_pos hafter]
        rfl
      rw [hnone, List.isEmpty_iff.mp hempty]
  · rw [List.reverse_append, List.dropWhile_append_of_pos hends]

theorem read_append {before after : Text} (hbefore : ∀ c ∈ before, isBlank c = true)
    (hafter : ∀ c ∈ after, isBlank c = true) (raw : Text) :
    Url.read (before ++ raw ++ after) = Url.read raw := by
  unfold Url.read
  rw [trim_append hbefore hafter]

/-- Fetching depends on nothing but the address that has been read. -/
theorem body_congr {raw other : Text} {u : Url} (hread : Url.read raw = .ok u)
    (hother : Url.read other = .ok u) (limits : Limits) :
    Fetch.body raw limits = Fetch.body other limits := by
  unfold Fetch.body
  rw [hread, hother]
  rfl

/-- **What a text is accepted as is accepted as itself.**  White space around the text makes no
difference, and a text that is refused is given back as it is.  The address that a text is accepted
as is asked for in one form; that form is read as the very same address, and so the same document is
fetched with it.  It is refused only where a label of the domain name comes to more characters, once
it is encoded, than are decoded.  Every later problem names that form. -/
theorem read_again (raw : Text) :
    (∀ before after, (∀ c ∈ before, isBlank c = true) → (∀ c ∈ after, isBlank c = true) →
        Url.read (before ++ raw ++ after) = Url.read raw)
      ∧ (∀ reason, Url.read raw = .error reason → ∀ limits s,
        Fetch.body raw limits s = (.error (.fetch (.invalidUrl raw reason)), s))
      ∧ ∀ u, Url.read raw = .ok u →
        (u.host.IsShort → Url.read u.write = .ok u
          ∧ ∀ limits, Fetch.body u.write limits = Fetch.body raw limits)
        ∧ (¬ u.host.IsShort → Url.read u.write = .error .badDomain)
        ∧ ∀ limits s problem, (Fetch.body raw limits s).1 = .error problem →
          (∃ fault, problem = .fetch (.transport u.write fault))
            ∨ ∃ status, problem = .fetch (.status u.write status) := by
  refine ⟨fun before after hbefore hafter => read_append hbefore hafter raw,
    fun reason hread limits s => ?_, fun u hread => ?_⟩
  · unfold Fetch.body
    rw [hread]
    rfl
  · have hu := isCanonical_of_read hread
    refine ⟨fun hshort => ?_, hu.read_write_of_long, fun limits s problem hproblem => ?_⟩
    · have hagain := hu.read_write hshort
      exact ⟨hagain, body_congr hagain hread⟩
    · obtain ⟨requests, houtcome, -⟩ := Fetch.body_outcome raw limits s
      rw [hproblem] at houtcome
      cases houtcome with
      | invalidUrl hurl =>
          rw [hread] at hurl
          cases hurl
      | @transport other fault requests hurl hperforms =>
          rw [hread] at hurl
          cases hurl
          exact .inl ⟨_, rfl⟩
      | @status other response requests hurl hperforms hstatus =>
          rw [hread] at hurl
          cases hurl
          exact .inr ⟨_, rfl⟩

/-- **The long address is accepted, but what it is accepted as is refused.** -/
theorem long_address_in_one_form :
    ∃ u, Url.read longAddress = .ok u ∧ Url.read u.write = .error .badDomain :=
  ⟨longUrl, read_longAddress, isCanonical_longUrl.read_write_of_long not_isShort_longUrl⟩

theorem isShort_crooked : crookedUrl.host.IsShort := by
  have hcut : cutAt (· = '.') "example.com".toList = ["example".toList, "com".toList] := by decide
  have hlabels : ∀ label ∈ ["example".toList, "com".toList],
      dropStart? Domain.encodedMark label = none := by decide
  intro label hlabel encoded hdrop
  rw [hlabels label (hcut ▸ hlabel)] at hdrop
  cases hdrop

/-- What the crooked address is accepted as is accepted as itself, and stays what is named when no
request can be made; the long address is accepted in one form only. -/
theorem read_again_crooked :
    Url.read (" \u00a0".toList ++ crooked ++ ['\n']) = Url.read crooked
      ∧ (∀ limits s, Fetch.body "gopher:a".toList limits s
        = (.error (.fetch (.invalidUrl "gopher:a".toList (.scheme "gopher".toList))), s))
      ∧ Url.read crookedUrl.write = .ok crookedUrl
      ∧ (∀ limits, Fetch.body crookedUrl.write limits = Fetch.body crooked limits)
      ∧ Url.read longUrl.write = .error .badDomain
      ∧ (∃ problem,
        (Fetch.body crooked { timeout := some 0x8000000000000000 } {}).1 = .error problem ∧
        ((∃ fault, problem = .fetch (.transport crookedUrl.write fault))
          ∨ ∃ status, problem = .fetch (.status crookedUrl.write status))) := by
  have hagain := (read_again crooked).2.2 crookedUrl read_crooked
  have hrefused : Url.read "gopher:a".toList = .error (.scheme "gopher".toList) := by
    rfl
  have hproblem : (Fetch.body crooked { timeout := some 0x8000000000000000 } {}).1
      = .error (.fetch (.transport crookedUrl.write .badOption)) := by
    unfold Fetch.body
    rw [read_crooked]
    rfl
  exact ⟨(read_again crooked).1 _ _ (forall_mem_of_all (by decide)) (forall_mem_of_all (by decide)),
    fun limits s => (read_again _).2.1 _ hrefused limits s,
    (hagain.1 isShort_crooked).1, (hagain.1 isShort_crooked).2,
    ((read_again longAddress).2.2 longUrl read_longAddress).2.1 not_isShort_longUrl,
    _, hproblem, hagain.2.2 _ _ _ hproblem⟩

end OperatorNames.Url
