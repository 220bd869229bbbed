import OperatorNames.Proofs.Config.RoundTrip
import OperatorNames.Proofs.Toml.Spelling.Documents

/-!
# Which documents are configurations

A text is a configuration just if it is a well-formed document whose own table holds values of the
right kinds, in the right ranges, under the keys of a configuration (`Acceptable`), and then the
configuration is made up of just these values (`HeldIn`).  Nothing else of a document counts:
neither how it is written, nor the order of its keys, nor what else it holds
(`ofToml_iff_denotes`).
-/

namespace OperatorNames

open Text Toml

namespace Config

/-! ## What a table holds -/

/-- A table holds a string under a key. -/
def HoldsString (root : Entries) (name : String) (t : Text) : Prop :=
  root.lookup name.toList = some (.scalar (.string t) .nowhere)

/-- A table holds a number under a key. -/
def HoldsNumber (root : Entries) (name : String) (n : Nat) : Prop :=
  root.lookup name.toList = some (.scalar (.integer n) .nowhere)

/-- A table holds nothing under a key. -/
def Lacks (root : Entries) (name : String) : Prop :=
  root.lookup name.toList = none

/-- A table holds a number under a key, or nothing if there is none. -/
def HoldsOptional (root : Entries) (name : String) : Option Nat → Prop
  | none => Lacks root name
  | some n => HoldsNumber root name n

/-- A table holds what a configuration needs, and nothing else under the keys of one. -/
structure Acceptable (root : Entries) : Prop where
  /-- The address is a string. -/
  sourceUrl : ∃ t, HoldsString root "source_url" t
  /-- The number of lines that are passed over is a number of 63 bits. -/
  skipLines : ∃ n ≤ 0x7FFFFFFFFFFFFFFF, HoldsNumber root "skip_lines" n
  /-- The time for a connection is a number of 63 bits, if it is there. -/
  connectTimeout : Lacks root "connect_timeout_secs" ∨
    ∃ n ≤ 0x7FFFFFFFFFFFFFFF, HoldsNumber root "connect_timeout_secs" n
  /-- The time for a transfer is a number of 63 bits, if it is there. -/
  timeout : Lacks root "timeout_secs" ∨ ∃ n ≤ 0x7FFFFFFFFFFFFFFF, HoldsNumber root "timeout_secs" n
  /-- The number of redirections is one of 32 bits, if it is there. -/
  maxRedirects : Lacks root "max_redirections" ∨
    ∃ n ≤ 0xFFFFFFFF, HoldsNumber root "max_redirections" n

/-- A configuration is made up of the values that a table holds. -/
structure HeldIn (c : Config) (root : Entries) : Prop where
  /-- The address is held. -/
  sourceUrl : HoldsString root "source_url" c.sourceUrl
  /-- The number of lines that are passed over is held. -/
  skipLines : HoldsNumber root "skip_lines" c.skipLines.toNat
  /-- The time for a connection is held, if one is set. -/
  connectTimeout : HoldsOptional root "connect_timeout_secs" (c.connectTimeout.map UInt64.toNat)
  /-- The time for a transfer is held, if one is set. -/
  timeout : HoldsOptional root "timeout_secs" (c.timeout.map UInt64.toNat)
  /-- The number of redirections is held, or it is ten. -/
  maxRedirects : HoldsNumber root "max_redirections" c.maxRedirects.toNat ∨
    Lacks root "max_redirections" ∧ c.maxRedirects = 10

/-! ## Values of fields -/

/-- A value, without its place, is one that a field takes. -/
def Field.Takes (field : Field) (node : Node) : Prop :=
  match field.bound with
  | none => ∃ t, node = .scalar (.string t) .nowhere
  | some bound => ∃ n : Nat, n < bound ∧ node = .scalar (.integer n) .nowhere

theorem Field.complaint?_eq_none_iff (field : Field) (node : Node) :
    field.complaint? node = none ↔ field.Takes node.unplaced := by
  unfold Field.complaint? Field.Takes
  cases field.bound with
  | none => rcases node with ⟨_ | _ | _ | _ | _, _⟩ | _ | _ | _ | _ <;> simp [Node.unplaced]
  | some bound =>
      rcases node with ⟨_ | n | _ | _ | _, extent⟩ | _ | _ | _ | _
      case scalar.integer =>
        show (if 0 ≤ n ∧ n < bound then none else some _) = none ↔ _
        constructor
        · intro hnone
          split at hnone
          · next hrange => exact ⟨n.toNat, by omega, by rw [Int.toNat_of_nonneg hrange.1]; rfl⟩
          · cases hnone
        · rintro ⟨m, hm, heq⟩
          cases heq
          exact if_pos ⟨Int.natCast_nonneg m, Int.ofNat_lt.mpr hm⟩
      all_goals simp [Node.unplaced]

theorem Field.eq_key_of_ofKey? {name : Text} {field : Field}
    (hfield : Field.ofKey? name = some field) :
    name = field.key := by
  have hkey := List.find?_some hfield
  exact (of_decide_eq_true hkey).symm

/-- There is nothing to complain about just if all fields take what stands under their keys. -/
theorem firstComplaint?_eq_none_iff {entries : Entries} (hdistinct : entries.Distinct) :
    firstComplaint? entries = none ↔
      ∀ field node, (unplacedEntries entries).lookup (Field.key field) = some node →
        field.Takes node := by
  rw [firstComplaint?, List.findSome?_eq_none_iff]
  constructor
  · intro hnone field node hlookup
    rw [lookup_unplacedEntries] at hlookup
    obtain ⟨held, hheld, rfl⟩ := Option.map_eq_some_iff.mp hlookup
    obtain ⟨before, after, hsplit, -⟩ := List.lookup_eq_some_iff.mp hheld
    have hmem : (field.key, held) ∈ entries := hsplit ▸ List.mem_append_right _ List.mem_cons_self
    have hentry := hnone _ hmem
    dsimp only at hentry
    rw [Field.ofKey?_key, Option.bind_some, Option.map_eq_none_iff] at hentry
    exact (field.complaint?_eq_none_iff held).mp hentry
  · rintro htakes ⟨name, node⟩ hmem
    dsimp only
    cases hfield : Field.ofKey? name with
    | none => rfl
    | some field =>
        have hname := Field.eq_key_of_ofKey? hfield
        subst hname
        rw [Option.bind_some, Option.map_eq_none_iff, field.complaint?_eq_none_iff]
        apply htakes
        rw [lookup_unplacedEntries, hdistinct.lookup_of_mem hmem]
        rfl

theorem string?_eq_some_iff {entries : Entries} {field : Field} {t : Text} :
    string? entries field = some t ↔
      (unplacedEntries entries).lookup field.key = some (.scalar (.string t) .nowhere) := by
  rw [string?, lookup_unplacedEntries]
  rcases entries.lookup field.key with _ | ⟨_ | _ | _ | _ | _, _⟩ | _ | _ | _ | _ <;>
    simp [Node.unplaced]

theorem number?_of_lookup_eq_none {entries : Entries} (field : Field)
    (hlookup : (unplacedEntries entries).lookup field.key = none) :
    number? entries field = none := by
  rw [lookup_unplacedEntries, Option.map_eq_none_iff] at hlookup
  rw [number?, hlookup]

theorem number?_of_lookup_eq_some {entries : Entries} (field : Field) {n : Nat}
    (hlookup : (unplacedEntries entries).lookup field.key =
      some (.scalar (.integer n) .nowhere)) : number? entries field = some n := by
  rw [lookup_unplacedEntries] at hlookup
  obtain ⟨held, hheld, hnode⟩ := Option.map_eq_some_iff.mp hlookup
  rw [number?, hheld]
  rcases held with ⟨value, extent⟩ | _ | _ | _ | _
  case scalar =>
    cases hnode
    rfl
  all_goals cases hnode

section Fields

variable {entries : Entries}
  (htakes : ∀ field node, (unplacedEntries entries).lookup (Field.key field) = some node →
    field.Takes node)

include htakes

/-- A field that takes numbers holds none, or one that it takes. -/
theorem number?_cases (field : Field) {bound : Nat} (hbound : field.bound = some bound) :
    ((unplacedEntries entries).lookup field.key = none ∧ number? entries field = none) ∨
      ∃ n < bound, (unplacedEntries entries).lookup field.key =
        some (.scalar (.integer n) .nowhere) ∧ number? entries field = some n := by
  cases hlookup : (unplacedEntries entries).lookup field.key with
  | none => exact .inl ⟨rfl, number?_of_lookup_eq_none field hlookup⟩
  | some node =>
      have hnode := htakes field node hlookup
      simp only [Field.Takes, hbound] at hnode
      obtain ⟨n, hn, rfl⟩ := hnode
      exact .inr ⟨n, hn, rfl, number?_of_lookup_eq_some field hlookup⟩

/-- What is read for a number that may be absent is what is held. -/
theorem holdsOptional_number? {field : Field} {name : String} (hname : field.key = name.toList)
    (hbound : field.bound = some 0x10000000000000000) :
    HoldsOptional (unplacedEntries entries) name
      (((number? entries field).map UInt64.ofNat).map UInt64.toNat) := by
  rcases number?_cases htakes field hbound with ⟨hlookup, hnumber⟩ | ⟨n, hn, hlookup, hnumber⟩
  · rw [hnumber]
    rwa [hname] at hlookup
  · rw [hnumber, Option.map_some, Option.map_some, UInt64.toNat_ofNat_of_lt' hn]
    rwa [hname] at hlookup

end Fields

theorem heldIn_of_ofDocument {document : Document} (hdistinct : document.entries.Distinct)
    {c : Config} (hconfig : ofDocument document = .ok c) :
    c.HeldIn (unplacedEntries document.entries) := by
  unfold ofDocument at hconfig
  split at hconfig
  · cases hconfig
  next hnone =>
  have htakes := (firstComplaint?_eq_none_iff hdistinct).mp hnone
  split at hconfig
  · cases hconfig
  next sourceUrl hsource =>
  split at hconfig
  · cases hconfig
  next skipLines hskip =>
  cases hconfig
  refine ⟨string?_eq_some_iff.mp hsource, ?_, holdsOptional_number? htakes rfl rfl,
    holdsOptional_number? htakes rfl rfl, ?_⟩
  · rcases number?_cases htakes .skipLines rfl with
      ⟨-, hnumber⟩ | ⟨n, hn, hlookup, hnumber⟩
    · rw [hskip] at hnumber
      cases hnumber
    · rw [hskip] at hnumber
      cases hnumber
      show HoldsNumber _ _ (UInt64.ofNat skipLines).toNat
      rw [UInt64.toNat_ofNat_of_lt' hn]
      exact hlookup
  · rcases number?_cases htakes .maxRedirects rfl with
      ⟨hlookup, hnumber⟩ | ⟨n, hn, hlookup, hnumber⟩
    · right
      refine ⟨hlookup, ?_⟩
      rw [hnumber]
      rfl
    · left
      rw [hnumber, Option.map_some, Option.getD_some, UInt32.toNat_ofNat_of_lt' hn]
      exact hlookup

theorem HeldIn.takes {c : Config} {root : Entries} (hheld : c.HeldIn root) (field : Field)
    (node : Node) (hlookup : root.lookup field.key = some node) : field.Takes node := by
  have hoptional {name : String} (n? : Option UInt64)
      (hn : HoldsOptional root name (n?.map UInt64.toNat))
      (hlookup : root.lookup name.toList = some node) :
      ∃ n : Nat, n < 0x10000000000000000 ∧ node = .scalar (.integer n) .nowhere := by
    cases n? with
    | none =>
        have hnone : root.lookup name.toList = none := hn
        rw [hlookup] at hnone
        cases hnone
    | some n =>
        have hsome : root.lookup name.toList = some (.scalar (.integer n.toNat) .nowhere) := hn
        rw [hlookup] at hsome
        exact ⟨n.toNat, n.toNat_lt, Option.some.inj hsome⟩
  cases field with
  | sourceUrl =>
      have hsource : root.lookup Field.sourceUrl.key =
          some (.scalar (.string c.sourceUrl) .nowhere) := hheld.sourceUrl
      rw [hlookup] at hsource
      exact ⟨c.sourceUrl, Option.some.inj hsource⟩
  | skipLines => exact hoptional (some c.skipLines) hheld.skipLines hlookup
  | connectTimeout => exact hoptional c.connectTimeout hheld.connectTimeout hlookup
  | timeout => exact hoptional c.timeout hheld.timeout hlookup
  | maxRedirects =>
      rcases hheld.maxRedirects with hnumber | ⟨hlacks, -⟩
      · have hsome : root.lookup Field.maxRedirects.key =
            some (.scalar (.integer c.maxRedirects.toNat) .nowhere) := hnumber
        rw [hlookup] at hsome
        exact ⟨c.maxRedirects.toNat, c.maxRedirects.toNat_lt, Option.some.inj hsome⟩
      · have hnone : root.lookup Field.maxRedirects.key = none := hlacks
        rw [hlookup] at hnone
        cases hnone

theorem ofDocument_of_heldIn {document : Document} (hdistinct : document.entries.Distinct)
    {c : Config} (hheld : c.HeldIn (unplacedEntries document.entries)) :
    ofDocument document = .ok c := by
  have hnone := (firstComplaint?_eq_none_iff hdistinct).mpr hheld.takes
  have hsource : string? document.entries .sourceUrl = some c.sourceUrl :=
    string?_eq_some_iff.mpr hheld.sourceUrl
  have hskip : number? document.entries .skipLines = some c.skipLines.toNat :=
    number?_of_lookup_eq_some .skipLines hheld.skipLines
  have hoptional (field : Field) {name : String} {n? : Option UInt64}
      (hname : field.key = name.toList)
      (hn : HoldsOptional (unplacedEntries document.entries) name (n?.map UInt64.toNat)) :
      (number? document.entries field).map UInt64.ofNat = n? := by
    cases n? with
    | none =>
        have hlookup : (unplacedEntries document.entries).lookup name.toList = none := hn
        rw [← hname] at hlookup
        rw [number?_of_lookup_eq_none field hlookup]
        rfl
    | some n =>
        have hlookup : (unplacedEntries document.entries).lookup name.toList =
            some (.scalar (.integer n.toNat) .nowhere) := hn
        rw [← hname] at hlookup
        rw [number?_of_lookup_eq_some field hlookup, Option.map_some, UInt64.ofNat_toNat]
  have hredirects : ((number? document.entries .maxRedirects).map UInt32.ofNat).getD
      standard.maxRedirects = c.maxRedirects := by
    rcases hheld.maxRedirects with hnumber | ⟨hlacks, hten⟩
    · rw [number?_of_lookup_eq_some .maxRedirects hnumber, Option.map_some,
        UInt32.ofNat_toNat, Option.getD_some]
    · rw [number?_of_lookup_eq_none .maxRedirects hlacks, hten]
      rfl
  simp only [ofDocument, hnone, hsource, hskip, UInt64.ofNat_toNat,
    hoptional .connectTimeout rfl hheld.connectTimeout,
    hoptional .timeout rfl hheld.timeout, hredirects]

/-! ## Acceptance -/

theorem le_of_holdsNumber {entries : Entries} (hrange : entries.InRange) {name : String} {n : Nat}
    (hn : HoldsNumber (unplacedEntries entries) name n) : n ≤ 0x7FFFFFFFFFFFFFFF := by
  rw [HoldsNumber, lookup_unplacedEntries] at hn
  obtain ⟨held, hheld, hnode⟩ := Option.map_eq_some_iff.mp hn
  obtain ⟨before, after, hsplit, -⟩ := List.lookup_eq_some_iff.mp hheld
  have hmem : (name.toList, held) ∈ entries := hsplit ▸ List.mem_append_right _ List.mem_cons_self
  rcases held with ⟨value, extent⟩ | _ | _ | _ | _
  case scalar =>
    cases hnode
    have hbound := (hrange _ hmem n extent rfl).2
    unfold Number.bound at hbound
    omega
  all_goals cases hnode

/-- A table holds a number of 63 bits or none, just if it holds what a field may be set to. -/
theorem exists_holdsOptional_iff {entries : Entries} (hrange : entries.InRange) (name : String) :
    (∃ n? : Option UInt64, HoldsOptional (unplacedEntries entries) name (n?.map UInt64.toNat)) ↔
      Lacks (unplacedEntries entries) name ∨
        ∃ n ≤ 0x7FFFFFFFFFFFFFFF, HoldsNumber (unplacedEntries entries) name n := by
  constructor
  · rintro ⟨_ | n, hn⟩
    · exact .inl hn
    · exact .inr ⟨n.toNat, le_of_holdsNumber hrange hn, hn⟩
  · rintro (hlacks | ⟨n, hn, hholds⟩)
    · exact ⟨none, hlacks⟩
    · refine ⟨some (.ofNat n), ?_⟩
      show HoldsNumber _ _ (UInt64.ofNat n).toNat
      rw [UInt64.toNat_ofNat_of_lt' (Nat.lt_of_le_of_lt hn (by decide))]
      exact hholds

theorem HeldIn.acceptable {c : Config} {entries : Entries} (hrange : entries.InRange)
    (hheld : c.HeldIn (unplacedEntries entries)) : Acceptable (unplacedEntries entries) := by
  refine ⟨⟨_, hheld.sourceUrl⟩, ⟨_, le_of_holdsNumber hrange hheld.skipLines, hheld.skipLines⟩,
    (exists_holdsOptional_iff hrange _).mp ⟨_, hheld.connectTimeout⟩,
    (exists_holdsOptional_iff hrange _).mp ⟨_, hheld.timeout⟩, ?_⟩
  rcases hheld.maxRedirects with hholds | ⟨hlacks, -⟩
  · exact .inr ⟨_, Nat.le_of_lt_succ c.maxRedirects.toNat_lt, hholds⟩
  · exact .inl hlacks

theorem exists_heldIn {entries : Entries} (hrange : entries.InRange)
    (hacceptable : Acceptable (unplacedEntries entries)) :
    ∃ c : Config, c.HeldIn (unplacedEntries entries) := by
  obtain ⟨t, ht⟩ := hacceptable.sourceUrl
  obtain ⟨n, hn, hskip⟩ := hacceptable.skipLines
  obtain ⟨connectTimeout, hconnect⟩ :=
    (exists_holdsOptional_iff hrange _).mpr hacceptable.connectTimeout
  obtain ⟨timeout, htimeout⟩ := (exists_holdsOptional_iff hrange _).mpr hacceptable.timeout
  have hskip' : HoldsNumber (unplacedEntries entries) "skip_lines" (UInt64.ofNat n).toNat := by
    rw [UInt64.toNat_ofNat_of_lt' (Nat.lt_of_le_of_lt hn (by decide))]
    exact hskip
  rcases hacceptable.maxRedirects with hlacks | ⟨m, hm, hholds⟩
  · exact ⟨⟨t, .ofNat n, connectTimeout, timeout, 10⟩, ht, hskip', hconnect, htimeout,
      .inr ⟨hlacks, rfl⟩⟩
  · refine ⟨⟨t, .ofNat n, connectTimeout, timeout, .ofNat m⟩, ht, hskip', hconnect, htimeout,
      .inl ?_⟩
    show HoldsNumber _ _ (UInt32.ofNat m).toNat
    rw [UInt32.toNat_ofNat_of_lt' (Nat.lt_succ_of_le hm)]
    exact hholds

theorem distinct_of_read? {t : Text} {document : Document}
    (hread : Document.read? t = some document) : document.entries.Distinct := by
  obtain ⟨placed, -, hentries⟩ := exists_of_read? hread
  exact (Step.lookup_applyAll hentries).1 List.nodup_nil

/-- The configuration that a text is, is made up of what the text denotes. -/
theorem ofToml_eq_ok_iff (t : Text) (c : Config) :
    ofToml t = .ok c ↔ ∃ root, Denotes t root ∧ c.HeldIn root := by
  constructor
  · intro hconfig
    unfold ofToml at hconfig
    split at hconfig
    · cases hconfig
    · next document hread =>
        split at hconfig
        · cases hconfig
        · next config hdocument =>
            cases hconfig
            exact ⟨_, denotes_of_read? hread,
              heldIn_of_ofDocument (distinct_of_read? hread) hdocument⟩
  · rintro ⟨root, hroot, hheld⟩
    obtain ⟨document, hread, rfl⟩ := read?_of_denotes hroot
    rw [ofToml, hread]
    dsimp only
    rw [ofDocument_of_heldIn (distinct_of_read? hread) hheld]

/-! ## What does not count -/

theorem HeldIn.congr {c : Config} {root other : Entries} (hheld : c.HeldIn root)
    (hsame : ∀ field, root.lookup (Field.key field) = other.lookup field.key) :
    c.HeldIn other := by
  have hoptional (field : Field) {name : String} (hname : field.key = name.toList) {n? : Option Nat}
      (hn : HoldsOptional root name n?) : HoldsOptional other name n? := by
    have hlookup := hsame field
    rw [hname] at hlookup
    cases n? with
    | none => exact hlookup.symm.trans hn
    | some n => exact hlookup.symm.trans hn
  refine ⟨(hsame .sourceUrl).symm.trans hheld.sourceUrl,
    (hsame .skipLines).symm.trans hheld.skipLines,
    hoptional .connectTimeout rfl hheld.connectTimeout,
    hoptional .timeout rfl hheld.timeout, ?_⟩
  rcases hheld.maxRedirects with hholds | ⟨hlacks, hten⟩
  · exact .inl ((hsame .maxRedirects).symm.trans hholds)
  · exact .inr ⟨(hsame .maxRedirects).symm.trans hlacks, hten⟩

theorem toOption_eq_of_iff {t u : Text} (hsame : ∀ c, ofToml t = .ok c ↔ ofToml u = .ok c) :
    (ofToml t).toOption = (ofToml u).toOption := by
  cases ht : ofToml t with
  | ok c =>
      rw [(hsame c).mp ht]
  | error problem =>
      cases hu : ofToml u with
      | error other => rfl
      | ok c =>
          rw [(hsame c).mpr hu] at ht
          cases ht

/-- Only what the tables of two documents hold under the keys of a configuration counts. -/
theorem toOption_eq_of_lookup {t u : Text} {root other : Entries} (hroot : Denotes t root)
    (hother : Denotes u other)
    (hsame : ∀ field, root.lookup (Field.key field) = other.lookup field.key) :
    (ofToml t).toOption = (ofToml u).toOption := by
  refine toOption_eq_of_iff fun c => ?_
  rw [ofToml_eq_ok_iff, ofToml_eq_ok_iff]
  constructor
  · rintro ⟨found, hfound, hheld⟩
    rw [hfound.unique hroot] at hheld
    exact ⟨other, hother, hheld.congr hsame⟩
  · rintro ⟨found, hfound, hheld⟩
    rw [hfound.unique hother] at hheld
    exact ⟨root, hroot, hheld.congr fun field => (hsame field).symm⟩

/-- If the same is said about each key, in the same order, one document is well formed just if the
other one is. -/
theorem exists_denotes {t u : Text} {said others : List Statement} (ht : SpellsDocument t said)
    (hu : SpellsDocument u others)
    (hsame : ∀ name, Step.about name (steps said) = Step.about name (steps others)) {root : Entries}
    (hroot : Denotes t root) :
    ∃ other, Denotes u other ∧ ∀ name, root.lookup name = other.lookup name := by
  have hheld (name : Text) :
      Step.heldAfter name (steps others) (([] : Entries).lookup name) =
        some (root.lookup name) := by
    rw [← Step.heldAfter_about, ← hsame name]
    exact hroot.heldAfter ht name
  obtain ⟨other, hother⟩ := Step.exists_applyAll fun name => ⟨_, hheld name⟩
  refine ⟨other, ⟨others, hu, hother⟩, fun name => ?_⟩
  have hlast := (Step.lookup_applyAll hother).2 name
  rw [hheld name] at hlast
  exact Option.some.inj hlast

theorem toOption_eq_of_about {t u : Text} {said others : List Statement}
    (ht : SpellsDocument t said) (hu : SpellsDocument u others)
    (hsame : ∀ name, Step.about name (steps said) = Step.about name (steps others)) :
    (ofToml t).toOption = (ofToml u).toOption := by
  by_cases hdenotes : ∃ root, Denotes t root
  · obtain ⟨root, hroot⟩ := hdenotes
    obtain ⟨other, hother, hlookup⟩ := exists_denotes ht hu hsame hroot
    exact toOption_eq_of_lookup hroot hother fun field => hlookup field.key
  · refine toOption_eq_of_iff fun c => ?_
    rw [ofToml_eq_ok_iff, ofToml_eq_ok_iff]
    constructor
    · rintro ⟨root, hroot, -⟩
      exact absurd ⟨root, hroot⟩ hdenotes
    · rintro ⟨other, hother, -⟩
      obtain ⟨root, hroot, -⟩ := exists_denotes hu ht (fun name => (hsame name).symm) hother
      exact absurd ⟨root, hroot⟩ hdenotes

/-- **Which texts are configurations, and which ones.**  A text is read just if it is a well-formed
document whose own table is acceptable, and then the configuration is made up of what the table
holds.  If two documents say the same about each key, in the same order, both are read or neither,
and as the same configuration: so the order of the keys does not count, nor how keys and values are
written, nor comments and empty lines, of which one may stand between any two lines.  And of two
well-formed documents only what they say about the keys of a configuration counts: other keys and
tables do not. -/
theorem ofToml_iff_denotes :
    (∀ t, (∃ c, ofToml t = .ok c) ↔ ∃ root, Denotes t root ∧ Acceptable root) ∧
    (∀ t c, ofToml t = .ok c ↔ ∃ root, Denotes t root ∧ c.HeldIn root) ∧
    (∀ t u said others, SpellsDocument t said → SpellsDocument u others →
      (∀ name, Step.about name (steps said) = Step.about name (steps others)) →
      (ofToml t).toOption = (ofToml u).toOption) ∧
    (∀ a b said others f s c g, SpellsDocument a said → SpellsLines b others → LineFeed f →
      Spaces s → Comment c → LineFeed g →
      (ofToml (a ++ (f ++ (s ++ c ++ (g ++ b))))).toOption = (ofToml (a ++ (f ++ b))).toOption) ∧
    ∀ t u said others root other, SpellsDocument t said → SpellsDocument u others →
      Denotes t root → Denotes u other →
      (∀ field, Step.about (Field.key field) (steps said) = Step.about field.key (steps others)) →
      (ofToml t).toOption = (ofToml u).toOption := by
  refine ⟨?_, ofToml_eq_ok_iff, ?_, ?_, ?_⟩
  · intro t
    constructor
    · rintro ⟨c, hconfig⟩
      obtain ⟨root, hroot, hheld⟩ := (ofToml_eq_ok_iff t c).mp hconfig
      obtain ⟨document, hread, rfl⟩ := read?_of_denotes hroot
      exact ⟨_, hroot, hheld.acceptable (inRange_of_read? hread)⟩
    · rintro ⟨root, hroot, hacceptable⟩
      obtain ⟨document, hread, rfl⟩ := read?_of_denotes hroot
      obtain ⟨c, hheld⟩ := exists_heldIn (inRange_of_read? hread) hacceptable
      exact ⟨c, (ofToml_eq_ok_iff t c).mpr ⟨_, hroot, hheld⟩⟩
  · intro t u said others ht hu hsame
    exact toOption_eq_of_about ht hu hsame
  · intro a b said others f s c g ha hb hf hs hc hg
    have hblank : SpellsLines (s ++ c ++ (g ++ b)) ([] ++ others) := .more (.blank hs hc) hg hb
    exact toOption_eq_of_about (ha.append hf hblank) (ha.append hf hb) fun _ => rfl
  · intro t u said others root other ht hu hroot hother hsame
    refine toOption_eq_of_lookup hroot hother fun field => ?_
    have hheld := hroot.heldAfter ht field.key
    rw [hsame field, hother.heldAfter hu field.key] at hheld
    exact (Option.some.inj hheld).symm

/-- A configuration in one notation and in another, without a comment between its lines and with
one, and with a table of something else after it. -/
theorem ofToml_notations :
    (∃ c, ofToml "skip_lines=0x2\nsource_url=\"\\u0075\"".toList = .ok c) ∧
    ofToml "skip_lines=0x2\nsource_url=\"\\u0075\"".toList = .ok ⟨['u'], 2, none, none, 10⟩ ∧
    (ofToml "skip_lines=0x2\nsource_url=\"\\u0075\"".toList).toOption =
      (ofToml "source_url='u'\r\nskip_lines=2".toList).toOption ∧
    (ofToml "source_url='u'\r\n # here\nskip_lines=2".toList).toOption =
      (ofToml "source_url='u'\r\nskip_lines=2".toList).toOption ∧
    (ofToml "source_url='u'\r\nskip_lines=2\n[more]\nskip_lines=0x2".toList).toOption =
      (ofToml "source_url='u'\r\nskip_lines=2".toList).toOption := by
  -- the lines, from their parts
  have hnumber {w : Text} (hw : SpellsScalar w (.integer 2)) :
      SpellsLine ("skip_lines".toList ++ '=' :: w)
        [.pair ⟨[], .named "skip_lines".toList, .scalar (.integer 2) .nowhere⟩] :=
    spellsLine_of_scalar nofun (List.all_eq_true.mp rfl) hw
  have haddress {w : Text} (hw : SpellsScalar w (.string ['u'])) :
      SpellsLine ("source_url".toList ++ '=' :: w)
        [.pair ⟨[], .named "source_url".toList, .scalar (.string ['u']) .nowhere⟩] :=
    spellsLine_of_scalar nofun (List.all_eq_true.mp rfl) hw
  have hpart : SpellsPart "more".toList "more".toList := .bare nofun (List.all_eq_true.mp rfl)
  have hmark : SpellsLine "[more]".toList [.header false [] (.named "more".toList) .nowhere] :=
    .statement (.header .nil (.last .nil hpart .nil)) .nil .absent
  have hten : SpellsScalar ['2'] (.integer 2) :=
    .integer (.decimal .absent (.digits (by decide) (.run rfl .nil)) (by decide) (by decide))
  have hsixteen : SpellsScalar ['0', 'x', '2'] (.integer 2) :=
    .integer (.marked .hexadecimal (.run rfl .nil) (by decide))
  have hliteral : SpellsScalar ['\x27', 'u', '\x27'] (.string ['u']) :=
    .string (.short (.literal (.plain rfl (by decide) .close)))
  have hbasic : SpellsScalar "\"\\u0075\"".toList (.string ['u']) :=
    .string (.short (.basic (.escape (.short rfl) .close)))
  -- the documents, from their lines
  have hfirst : SpellsDocument "skip_lines=0x2\nsource_url=\"\\u0075\"".toList _ :=
    .plain (beginsNot_cons rfl _) (.more (hnumber hsixteen) .plain (.last (haddress hbasic)))
  have hbegun : SpellsDocument "source_url='u'".toList _ :=
    .plain (beginsNot_cons rfl _) (.last (haddress hliteral))
  have hsecond : SpellsDocument "source_url='u'\r\nskip_lines=2".toList _ :=
    hbegun.append .withReturn (.last (hnumber hten))
  have hmore : SpellsDocument "source_url='u'\r\nskip_lines=2\n[more]\nskip_lines=0x2".toList _ :=
    hsecond.append .plain (.more hmark .plain (.last (hnumber hsixteen)))
  obtain ⟨hacceptable, hheld, hsteps, hblank, hkeys⟩ := ofToml_iff_denotes
  refine ⟨?_, ?_, ?_, ?_, ?_⟩
  · refine (hacceptable _).mpr ⟨_, ⟨_, hfirst, rfl⟩, ?_⟩
    exact ⟨⟨_, rfl⟩, ⟨2, by decide, rfl⟩, .inl rfl, .inl rfl, .inl rfl⟩
  · exact (hheld _ _).mpr ⟨_, ⟨_, hfirst, rfl⟩, rfl, rfl, rfl, rfl, .inr ⟨rfl, rfl⟩⟩
  · refine hsteps _ _ _ _ hfirst hsecond fun name => ?_
    exact Step.about_swap (by decide) name [] []
  · exact hblank "source_url='u'".toList "skip_lines=2".toList _ _ "\r\n".toList [' ']
      "# here".toList ['\n'] hbegun (.last (hnumber hten)) .withReturn (List.all_eq_true.mp rfl)
      (.written (List.all_eq_true.mp rfl)) .plain
  · refine hkeys _ _ _ _ _ _ hmore hsecond ⟨_, hmore, rfl⟩ ⟨_, hsecond, rfl⟩ fun field => ?_
    cases field <;> rfl
end Config

end OperatorNames
