import OperatorNames.Config.Toml
import OperatorNames.Proofs.Results
import OperatorNames.Proofs.Toml.Lines
import OperatorNames.Proofs.Toml.Number
import OperatorNames.Proofs.Toml.Range

/-!
# Configurations read back

A configuration can be written exactly if its numbers have 63 bits (`Fits`), and what is written is
read as that configuration.  A configuration that was read can be written, since a document holds no
greater numbers.  The main statement is `toToml_ofToml`.
-/

namespace OperatorNames

open Text Toml

namespace Toml

theorem exists_write_cons (t : Text) :
    ∃ c more, Quoted.write t = c :: more ∧ (c = '"' ∨ c = '\x27') := by
  unfold Quoted.write
  cases Quoted.formOf t with
  | basic => exact ⟨'"', _, rfl, .inl rfl⟩
  | literal => exact ⟨'\x27', _, rfl, .inr rfl⟩
  | longBasic => exact ⟨'"', _, rfl, .inl rfl⟩
  | longLiteral => exact ⟨'\x27', _, rfl, .inr rfl⟩

theorem scalar?_write (t rest : Text) :
    scalar? (Quoted.write t ++ '\n' :: rest) = some (.string t, '\n' :: rest) := by
  have hread := Quoted.read?_write t rest
  obtain ⟨c, more, hwrite, hc⟩ := exists_write_cons t
  rw [hwrite, List.cons_append] at hread ⊢
  rw [scalar?]
  dsimp only
  rw [if_pos (by simpa using hc), hread]
  rfl

end Toml

namespace Config

/-- The numbers of a configuration that a document holds as 64-bit ones have 63 bits. -/
structure Fits (c : Config) : Prop where
  /-- The number of lines that are passed over. -/
  skipLines : c.skipLines.toNat ≤ 0x7FFFFFFFFFFFFFFF
  /-- The time for a connection, if one is set. -/
  connectTimeout : ∀ n, c.connectTimeout = some n → n.toNat ≤ 0x7FFFFFFFFFFFFFFF
  /-- The time for a transfer, if one is set. -/
  timeout : ∀ n, c.timeout = some n → n.toNat ≤ 0x7FFFFFFFFFFFFFFF

/-! ## Settings -/

theorem Field.key_ne_nil (field : Field) : field.key ≠ [] := by
  cases field <;> decide

theorem Field.isBare_key (field : Field) : ∀ c ∈ field.key, isBare c = true := by
  have hall : field.key.all isBare = true := by cases field <;> rfl
  exact List.all_eq_true.mp hall

theorem Field.ofKey?_key (field : Field) : Field.ofKey? field.key = some field := by
  cases field <;> decide

theorem lt_bound {n : Nat} (hn : n ≤ 0x7FFFFFFFFFFFFFFF) : n < Number.bound := by
  unfold Number.bound
  omega

/-- A field with a string. -/
def stringSetting (field : Field) (t : Text) : Setting where
  name := field.key
  value := .string t
  written := Quoted.write t
  name_ne_nil := field.key_ne_nil
  isBare_name := field.isBare_key
  reads := scalar?_write t

/-- A field with a number. -/
def numberSetting (field : Field) (n : Nat) (hn : n < Number.bound) : Setting where
  name := field.key
  value := .integer n
  written := decimal n
  name_ne_nil := field.key_ne_nil
  isBare_name := field.isBare_key
  reads := scalar?_decimal hn

/-- A field with a number that may be absent. -/
def optionalSetting (field : Field) : (n? : Option UInt64) →
    (∀ n, n? = some n → n.toNat ≤ 0x7FFFFFFFFFFFFFFF) → List Setting
  | none, _ => []
  | some n, hn => [numberSetting field n.toNat (lt_bound (hn n rfl))]

theorem maxRedirects_lt (c : Config) : c.maxRedirects.toNat < Number.bound := by
  have hlt := c.maxRedirects.toNat_lt
  unfold Number.bound
  omega

/-- A configuration as settings. -/
def settings (c : Config) (hfits : c.Fits) : List Setting :=
  [stringSetting .sourceUrl c.sourceUrl,
    numberSetting .skipLines c.skipLines.toNat (lt_bound hfits.skipLines)]
  ++ optionalSetting .connectTimeout c.connectTimeout hfits.connectTimeout
  ++ optionalSetting .timeout c.timeout hfits.timeout
  ++ [numberSetting .maxRedirects c.maxRedirects.toNat c.maxRedirects_lt]

/-- Whether a field is written. -/
def writes (c : Config) : Field → Bool
  | .connectTimeout => c.connectTimeout.isSome
  | .timeout => c.timeout.isSome
  | _ => true

theorem Field.key_injective {field other : Field} (hkey : field.key = other.key) :
    field = other := by
  have hsame := congrArg Field.ofKey? hkey
  rw [ofKey?_key, ofKey?_key] at hsame
  exact Option.some.inj hsame

theorem names_settings (c : Config) (hfits : c.Fits) :
    (c.settings hfits).map (·.name) = (Field.all.filter c.writes).map Field.key := by
  obtain ⟨sourceUrl, skipLines, connectTimeout, timeout, maxRedirects⟩ := c
  cases connectTimeout with
  | none =>
      cases timeout with
      | none => rfl
      | some n => rfl
  | some n =>
      cases timeout with
      | none => rfl
      | some m => rfl

theorem nodup_names (c : Config) (hfits : c.Fits) :
    ((c.settings hfits).map (·.name)).Nodup := by
  have hall : Field.all.Nodup := by decide
  rw [names_settings]
  refine List.Pairwise.map _ ?_ (hall.filter c.writes)
  intro field other hne hkey
  exact hne (Field.key_injective hkey)

theorem not_mem_names {c : Config} (hfits : c.Fits) (field : Field)
    (hfield : c.writes field = false) : field.key ∉ (c.settings hfits).map (·.name) := by
  rw [names_settings]
  intro hmem
  obtain ⟨other, hother, hkey⟩ := List.mem_map.mp hmem
  rw [Field.key_injective hkey, List.mem_filter, hfield] at hother
  cases hother.2

/-! ## Writing -/

theorem writeNumber_eq_ok_iff {n : Nat} {t : Text} :
    writeNumber n = .ok t ↔ n < Number.bound ∧ t = decimal n := by
  unfold writeNumber
  split
  · next hn => simp [hn, eq_comm]
  · next hn => simp [hn]

theorem optionalLine_eq_ok (field : Field) {n? : Option UInt64}
    (hn : ∀ n, n? = some n → n.toNat ≤ 0x7FFFFFFFFFFFFFFF) :
    optionalLine field n? = .ok (Setting.document (optionalSetting field n? hn)) := by
  cases n? with
  | none => rfl
  | some n =>
      rw [optionalLine, writeNumber_eq_ok_iff.mpr ⟨lt_bound (hn n rfl), rfl⟩]
      simp [Except.map, optionalSetting, Setting.document, Setting.line, line, numberSetting]

theorem le_of_optionalLine {field : Field} {n? : Option UInt64} {t : Text}
    (hline : optionalLine field n? = .ok t) : ∀ n, n? = some n → n.toNat ≤ 0x7FFFFFFFFFFFFFFF := by
  rintro n rfl
  rw [optionalLine] at hline
  cases hwrite : writeNumber n.toNat with
  | error problem =>
      rw [hwrite] at hline
      cases hline
  | ok digits =>
      have hlt := (writeNumber_eq_ok_iff.mp hwrite).1
      unfold Number.bound at hlt
      omega

theorem toToml_of_fits {c : Config} (hfits : c.Fits) :
    c.toToml = .ok (Setting.document (c.settings hfits)) := by
  rw [toToml, writeNumber_eq_ok_iff.mpr ⟨lt_bound hfits.skipLines, rfl⟩,
    optionalLine_eq_ok _ hfits.connectTimeout, optionalLine_eq_ok _ hfits.timeout]
  simp only [settings, Setting.document, List.flatMap_append, List.flatMap_cons, List.flatMap_nil,
    List.append_nil]
  rfl

theorem fits_of_toToml {c : Config} {t : Text} (hwrite : c.toToml = .ok t) : c.Fits := by
  unfold toToml at hwrite
  obtain ⟨digits, hskip, hlater⟩ := exists_of_bind_eq_ok hwrite
  obtain ⟨connectLine, hconnect, hlast⟩ := exists_of_bind_eq_ok hlater
  obtain ⟨timeoutLine, htimeout, -⟩ := exists_of_bind_eq_ok hlast
  have hlt := (writeNumber_eq_ok_iff.mp hskip).1
  unfold Number.bound at hlt
  exact ⟨by omega, le_of_optionalLine hconnect, le_of_optionalLine htimeout⟩

/-- Numbers that are too great are all that can stand in the way. -/
theorem toToml_of_not_fits {c : Config} (hfits : ¬ c.Fits) : c.toToml = .error .tooLarge := by
  cases hwrite : c.toToml with
  | ok t => exact absurd (fits_of_toToml hwrite) hfits
  | error problem =>
      cases problem
      rfl

/-! ## Reading -/

/-- A setting has a value that its field takes. -/
def Suits (s : Setting) : Prop :=
  ∃ field : Field, s.name = field.key ∧ ∀ extent, field.complaint? (.scalar s.value extent) = none

theorem suits_stringSetting {field : Field} (hbound : field.bound = none) (t : Text) :
    Suits (stringSetting field t) := by
  refine ⟨field, rfl, ?_⟩
  intro extent
  simp only [stringSetting, Field.complaint?, hbound]

theorem suits_numberSetting {field : Field} {bound n : Nat} (hbound : field.bound = some bound)
    (hn : n < bound) (hlt : n < Number.bound) : Suits (numberSetting field n hlt) := by
  refine ⟨field, rfl, ?_⟩
  intro extent
  simp only [numberSetting, Field.complaint?, hbound]
  exact if_pos (by omega)

theorem suits_optionalSetting {field : Field} (hbound : field.bound = some 0x10000000000000000)
    {n? : Option UInt64} (hn : ∀ n, n? = some n → n.toNat ≤ 0x7FFFFFFFFFFFFFFF) :
    ∀ s ∈ optionalSetting field n? hn, Suits s := by
  intro s hs
  cases n? with
  | none => cases hs
  | some n =>
      rw [List.mem_singleton.mp hs]
      exact suits_numberSetting hbound n.toNat_lt _

theorem suits_settings {c : Config} (hfits : c.Fits) : ∀ s ∈ c.settings hfits, Suits s := by
  intro s hs
  simp only [settings, List.mem_append, List.mem_cons, List.not_mem_nil, or_false] at hs
  rcases hs with (((rfl | rfl) | hs) | hs) | rfl
  · exact suits_stringSetting rfl _
  · exact suits_numberSetting rfl c.skipLines.toNat_lt _
  · exact suits_optionalSetting rfl _ s hs
  · exact suits_optionalSetting rfl _ s hs
  · exact suits_numberSetting rfl c.maxRedirects.toNat_lt _

theorem firstComplaint?_entries {settings : List Setting} (hsuits : ∀ s ∈ settings, Suits s) :
    firstComplaint? (Setting.entries settings) = none := by
  rw [firstComplaint?, List.findSome?_eq_none_iff]
  rintro ⟨name, node⟩ hmem
  obtain ⟨s, hs, extent, rfl, rfl⟩ := Setting.exists_of_mem_entries hmem
  obtain ⟨field, hname, hnone⟩ := hsuits s hs
  dsimp only
  rw [hname, Field.ofKey?_key, Option.bind_some, hnone]
  rfl

section

variable {settings : List Setting} (hnodup : (settings.map (·.name)).Nodup)

include hnodup

theorem string?_entries {field : Field} {t : Text} (hmem : stringSetting field t ∈ settings) :
    string? (Setting.entries settings) field = some t := by
  obtain ⟨extent, hlookup⟩ := Setting.lookup_entries_of_mem hnodup hmem
  simp only [stringSetting] at hlookup
  simp only [string?, hlookup]

theorem number?_entries {field : Field} {n : Nat} {hn : n < Number.bound}
    (hmem : numberSetting field n hn ∈ settings) :
    number? (Setting.entries settings) field = some n := by
  obtain ⟨extent, hlookup⟩ := Setting.lookup_entries_of_mem hnodup hmem
  simp only [numberSetting] at hlookup
  simp only [number?, hlookup, Int.toNat_natCast]

theorem number?_optional {field : Field} {n? : Option UInt64}
    (hn : ∀ n, n? = some n → n.toNat ≤ 0x7FFFFFFFFFFFFFFF)
    (hmem : ∀ s ∈ optionalSetting field n? hn, s ∈ settings)
    (habsent : n?.isSome = false → field.key ∉ settings.map (·.name)) :
    number? (Setting.entries settings) field = n?.map UInt64.toNat := by
  cases n? with
  | none => simp only [number?, Setting.lookup_entries_of_not_mem (habsent rfl), Option.map_none]
  | some n => exact number?_entries hnodup (hmem _ List.mem_cons_self)

end

theorem ofDocument_settings {c : Config} (hfits : c.Fits) {document : Document}
    (hentries : document.entries = Setting.entries (c.settings hfits)) :
    ofDocument document = .ok c := by
  have hnodup := c.nodup_names hfits
  have hsource : string? document.entries .sourceUrl = some c.sourceUrl := by
    rw [hentries]
    exact string?_entries hnodup (by simp [settings])
  have hskip : number? document.entries .skipLines = some c.skipLines.toNat := by
    rw [hentries]
    exact @number?_entries _ hnodup .skipLines _ (lt_bound hfits.skipLines) (by simp [settings])
  have hconnect : number? document.entries .connectTimeout =
      c.connectTimeout.map UInt64.toNat := by
    rw [hentries]
    refine number?_optional hnodup hfits.connectTimeout ?_ (not_mem_names hfits .connectTimeout)
    intro s hs
    simp [settings, hs]
  have htimeout : number? document.entries .timeout = c.timeout.map UInt64.toNat := by
    rw [hentries]
    refine number?_optional hnodup hfits.timeout ?_ (not_mem_names hfits .timeout)
    intro s hs
    simp [settings, hs]
  have hredirects : number? document.entries .maxRedirects = some c.maxRedirects.toNat := by
    rw [hentries]
    exact @number?_entries _ hnodup .maxRedirects _ c.maxRedirects_lt (by simp [settings])
  have hnone : firstComplaint? document.entries = none := by
    rw [hentries]
    exact firstComplaint?_entries (suits_settings hfits)
  have hback : (UInt64.ofNat ∘ UInt64.toNat) = id := by
    funext n
    exact UInt64.ofNat_toNat
  simp only [ofDocument, hnone, hsource, hskip, hconnect, htimeout, hredirects, Option.map_map,
    hback, Option.map_id, id_eq, UInt64.ofNat_toNat, Option.map_some, UInt32.ofNat_toNat,
    Option.getD_some]

/-- What a configuration is written as is read as it. -/
theorem ofToml_of_fits {c : Config} (hfits : c.Fits) :
    ofToml (Setting.document (c.settings hfits)) = .ok c := by
  obtain ⟨document, hread, hentries⟩ := Setting.read?_document (c.nodup_names hfits)
  simp only [ofToml, hread, ofDocument_settings hfits hentries]

/-! ## Configurations that were read -/

theorem number?_le {entries : Entries} (hentries : entries.InRange) {field : Field} {n : Nat}
    (hnumber : number? entries field = some n) : n ≤ 0x7FFFFFFFFFFFFFFF := by
  unfold number? at hnumber
  split at hnumber
  · next m extent hlookup =>
      obtain ⟨before, after, hsplit, -⟩ := List.lookup_eq_some_iff.mp hlookup
      have hmem : (field.key, Node.scalar (.integer m) extent) ∈ entries := by
        rw [hsplit]
        exact List.mem_append_right _ List.mem_cons_self
      have hrange := (hentries _ hmem m extent rfl).2
      unfold Number.bound at hrange
      cases hnumber
      omega
  · cases hnumber

theorem toNat_ofNat_le {n : Nat} (hn : n ≤ 0x7FFFFFFFFFFFFFFF) :
    (UInt64.ofNat n).toNat ≤ 0x7FFFFFFFFFFFFFFF := by
  rw [UInt64.toNat_ofNat']
  exact Nat.le_trans (Nat.mod_le _ _) hn

theorem fits_of_ofDocument {document : Document} (hrange : document.entries.InRange) {c : Config}
    (hconfig : ofDocument document = .ok c) : c.Fits := by
  have hoptional (field : Field) (n : UInt64)
      (hn : (number? document.entries field).map .ofNat = some n) :
      n.toNat ≤ 0x7FFFFFFFFFFFFFFF := by
    obtain ⟨m, hm, rfl⟩ := Option.map_eq_some_iff.mp hn
    exact toNat_ofNat_le (number?_le hrange hm)
  unfold ofDocument at hconfig
  split at hconfig
  · cases hconfig
  split at hconfig
  · cases hconfig
  split at hconfig
  · cases hconfig
  · next skipLines hskip =>
      cases hconfig
      exact ⟨toNat_ofNat_le (number?_le hrange hskip), hoptional _, hoptional _⟩

theorem fits_of_ofToml {t : Text} {c : Config} (hread : ofToml t = .ok c) : c.Fits := by
  unfold ofToml at hread
  split at hread
  · cases hread
  · next document hdocument =>
      have hrange := inRange_of_read? hdocument
      split at hread
      · cases hread
      · next config hconfig =>
          cases hread
          exact fits_of_ofDocument hrange hconfig

/-- **Configurations go over to documents and back.**  A configuration can be written exactly if its
numbers have 63 bits, what is written is read as the configuration in all its fields, and numbers
that are too great are the one problem there is.  What was read as a configuration, whatever else it
holds and however it is written, is a configuration that can be written and read again. -/
theorem toToml_ofToml (c : Config) :
    ((∃ t, c.toToml = .ok t) ↔
      c.skipLines.toNat ≤ 0x7FFFFFFFFFFFFFFF ∧
      (∀ n, c.connectTimeout = some n → n.toNat ≤ 0x7FFFFFFFFFFFFFFF) ∧
      ∀ n, c.timeout = some n → n.toNat ≤ 0x7FFFFFFFFFFFFFFF) ∧
    (∀ t, c.toToml = .ok t → ofToml t = .ok c) ∧
    ((¬ ∃ t, c.toToml = .ok t) → c.toToml = .error .tooLarge) ∧
    ∀ t, ofToml t = .ok c → ∃ written, c.toToml = .ok written ∧ ofToml written = .ok c := by
  have hread : ∀ t, c.toToml = .ok t → ofToml t = .ok c := by
    intro t hwrite
    have hfits := fits_of_toToml hwrite
    rw [toToml_of_fits hfits, Except.ok.injEq] at hwrite
    rw [← hwrite]
    exact ofToml_of_fits hfits
  refine ⟨⟨?_, ?_⟩, hread, ?_, ?_⟩
  · rintro ⟨t, hwrite⟩
    have hfits := fits_of_toToml hwrite
    exact ⟨hfits.skipLines, hfits.connectTimeout, hfits.timeout⟩
  · rintro ⟨hskip, hconnect, htimeout⟩
    exact ⟨_, toToml_of_fits ⟨hskip, hconnect, htimeout⟩⟩
  · intro hnone
    apply toToml_of_not_fits
    intro hfits
    exact hnone ⟨_, toToml_of_fits hfits⟩
  · intro t hconfig
    have hwrite := toToml_of_fits (fits_of_ofToml hconfig)
    exact ⟨_, hwrite, hread _ hwrite⟩

/-- A configuration whose address has quotes, a backslash and a line end in it. -/
def awkward : Config :=
  { sourceUrl := "a\"b\\c\r\n'''".toList
    skipLines := 0
    connectTimeout := some 0x7FFFFFFFFFFFFFFF
    maxRedirects := 0xFFFFFFFF }

/-- The awkward configuration in writing. -/
def awkwardDocument : Text :=
  "source_url = \"\"\"\na\"b\\\\c\\r\n'''\"\"\"\n".toList ++
    "skip_lines = 0\nconnect_timeout_secs = 9223372036854775807\n".toList ++
    "max_redirections = 4294967295\n".toList

theorem toToml_ofToml_awkward :
    ofToml awkwardDocument = .ok awkward ∧
    (∃ written, awkward.toToml = .ok written ∧ ofToml written = .ok awkward) ∧
    { awkward with timeout := some 0x8000000000000000 }.toToml = .error .tooLarge := by
  have hwrite : awkward.toToml = .ok awkwardDocument := rfl
  have hgreat : ¬ ∃ t, { awkward with timeout := some 0x8000000000000000 }.toToml = .ok t := by
    rintro ⟨t, hother⟩
    cases hother
  obtain ⟨-, hread, -, hagain⟩ := toToml_ofToml awkward
  obtain ⟨-, -, hproblem, -⟩ :=
    toToml_ofToml { awkward with timeout := some 0x8000000000000000 }
  have hconfig := hread _ hwrite
  exact ⟨hconfig, hagain _ hconfig, hproblem hgreat⟩

end Config

end OperatorNames
