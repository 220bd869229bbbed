import OperatorNames.Proofs.Toml.Quoted
import OperatorNames.Toml.Document

/-!
# Documents of plain lines

A document may be a list of lines that each give one key a value without parts (`Setting`).  Such a
document is read as a table that holds just these values under these keys, in order
(`read?_document`), provided that no key is given twice.
-/

namespace OperatorNames.Toml

open Text

/-- A line that gives a key a value: the key needs no quotes, and what is written for the value is
read as it up to the end of the line. -/
structure Setting where
  /-- The key. -/
  name : Text
  /-- The value. -/
  value : Scalar
  /-- The value as it is written. -/
  written : Text
  /-- There is a key. -/
  name_ne_nil : name ≠ []
  /-- The key needs no quotes. -/
  isBare_name : ∀ c ∈ name, isBare c = true
  /-- The value is read back. -/
  reads : ∀ rest, scalar? (written ++ '\n' :: rest) = some (value, '\n' :: rest)

/-- A setting as a line. -/
def Setting.line (s : Setting) : Text :=
  s.name ++ [' ', '=', ' '] ++ s.written ++ ['\n']

/-- Settings as a document. -/
def Setting.document (settings : List Setting) : Text :=
  settings.flatMap Setting.line

theorem ne_of_isBare {c d : Char} (hc : isBare c = true) (hd : isBare d = false) : c ≠ d := by
  rintro rfl
  rw [hc] at hd
  cases hd

theorem isSpace_of_isBare {c : Char} (hc : isBare c = true) : isSpace c = false := by
  simp only [isSpace, Bool.or_eq_false_iff, decide_eq_false_iff_not]
  exact ⟨ne_of_isBare hc rfl, ne_of_isBare hc rfl⟩

theorem afterSpaces_of_not_isSpace {c : Char} (hc : isSpace c = false) (t : Text) :
    afterSpaces (c :: t) = c :: t :=
  List.dropWhile_cons_of_neg (by simp [hc])

namespace Setting

variable (s : Setting)

/-- The first character of a key. -/
theorem exists_name_cons : ∃ c more, s.name = c :: more ∧ isBare c = true := by
  cases hname : s.name with
  | nil => exact absurd hname s.name_ne_nil
  | cons c more =>
      exact ⟨c, more, rfl, s.isBare_name c (hname ▸ List.mem_cons_self)⟩

/-- What is written for a value starts with none of the characters that other values or blanks
start with. -/
theorem exists_written_cons (rest : Text) : ∃ c more, s.written ++ '\n' :: rest = c :: more ∧
    isSpace c = false ∧ c ≠ '[' ∧ c ≠ '{' := by
  have hreads := s.reads rest
  cases htext : s.written ++ '\n' :: rest with
  | nil =>
      rw [htext] at hreads
      cases hreads
  | cons c more =>
      rw [htext] at hreads
      refine ⟨c, more, rfl, ?_, ?_, ?_⟩
      · rw [isSpace, Bool.or_eq_false_iff, decide_eq_false_iff_not, decide_eq_false_iff_not]
        constructor
        · rintro rfl
          cases hreads
        · rintro rfl
          cases hreads
      · rintro rfl
        cases hreads
      · rintro rfl
        cases hreads

/-- Where a line and what follows it are read as a pair. -/
def pair (rest : Text) : Pair where
  path := []
  key :=
    { name := s.name
      extent := ⟨s.line ++ rest, [' ', '=', ' '] ++ s.written ++ '\n' :: rest⟩ }
  value := .scalar s.value ⟨s.written ++ '\n' :: rest, '\n' :: rest⟩

theorem line_append (rest : Text) :
    s.line ++ rest = s.name ++ ' ' :: '=' :: ' ' :: (s.written ++ '\n' :: rest) := by
  simp [line]

theorem readShort?_line (rest : Text) : Quoted.readShort? (s.line ++ rest) = none := by
  obtain ⟨c, more, hname, hc⟩ := s.exists_name_cons
  rw [line_append, hname, List.cons_append, Quoted.readShort?]
  · intro _ heq
    exact ne_of_isBare hc rfl (List.cons.inj heq).1
  · intro _ heq
    exact ne_of_isBare hc rfl (List.cons.inj heq).1

theorem keyPart?_line (rest : Text) : keyPart? (s.line ++ rest) =
    some ((s.pair rest).key, ' ' :: '=' :: ' ' :: (s.written ++ '\n' :: rest)) := by
  have hname : (s.line ++ rest).takeWhile isBare = s.name := by
    rw [line_append, List.takeWhile_append_of_pos s.isBare_name, List.takeWhile_cons_of_neg
      (by decide), List.append_nil]
  have hafter : (s.line ++ rest).dropWhile isBare =
      ' ' :: '=' :: ' ' :: (s.written ++ '\n' :: rest) := by
    rw [line_append, List.dropWhile_append_of_pos s.isBare_name, List.dropWhile_cons_of_neg
      (by decide)]
  rw [keyPart?, readShort?_line]
  dsimp only
  rw [hname, hafter, if_neg (by simpa using s.name_ne_nil)]
  rfl

theorem afterSpaces_line (rest : Text) : afterSpaces (s.line ++ rest) = s.line ++ rest := by
  obtain ⟨c, more, hname, hc⟩ := s.exists_name_cons
  rw [line_append, hname, List.cons_append]
  exact afterSpaces_of_not_isSpace (isSpace_of_isBare hc) _

theorem key?_line (rest : Text) : key? deepest (s.line ++ rest) =
    some (([], (s.pair rest).key), '=' :: ' ' :: (s.written ++ '\n' :: rest)) := by
  show key? (78 + 1) _ = _
  have hafter : afterSpaces (' ' :: '=' :: ' ' :: (s.written ++ '\n' :: rest)) =
      '=' :: ' ' :: (s.written ++ '\n' :: rest) := rfl
  rw [key?, afterSpaces_line, keyPart?_line]
  simp only [Option.bind_eq_bind, Option.bind_some, hafter]
  rfl

theorem value?_written (rest : Text) : value? deepest (s.written ++ '\n' :: rest) =
    some ((s.pair rest).value, '\n' :: rest) := by
  have hreads := s.reads rest
  obtain ⟨c, more, htext, -, hbracket, hbrace⟩ := s.exists_written_cons rest
  rw [pair, htext]
  rw [htext] at hreads
  show value? (78 + 1) _ = _
  rw [value?, hreads]
  · rfl
  · intro _ heq
    exact hbracket (List.cons.inj heq).1
  · intro _ heq
    exact hbrace (List.cons.inj heq).1

theorem pair?_line (rest : Text) :
    pair? (value? deepest) (s.line ++ rest) = some (s.pair rest, '\n' :: rest) := by
  obtain ⟨c, more, htext, hspace, -, -⟩ := s.exists_written_cons rest
  have hvalue : afterSpaces (' ' :: (s.written ++ '\n' :: rest)) = s.written ++ '\n' :: rest := by
    rw [htext]
    exact afterSpaces_of_not_isSpace hspace more
  rw [pair?, key?_line]
  simp only [Option.bind_eq_bind, Option.bind_some, dropStart?, if_pos, hvalue, value?_written]
  rfl

theorem exists_line_cons (rest : Text) : ∃ c more, s.line ++ rest = c :: more ∧
    isBare c = true := by
  obtain ⟨c, more, hname, hc⟩ := s.exists_name_cons
  exact ⟨c, _, by rw [line_append, hname]; rfl, hc⟩

/-- A line is read as its setting. -/
theorem statement?_line (rest : Text) :
    statement? (s.line ++ rest) = some (.pair (s.pair rest), rest) := by
  obtain ⟨c, more, hhead, hc⟩ := s.exists_line_cons rest
  have hnotEmpty : afterLine? (s.line ++ rest) = none := by
    rw [afterLine?, afterSpaces_line, hhead, afterComment]
    · exact lineEnd?_cons (ne_of_isBare hc rfl) (ne_of_isBare hc rfl) _
    · intro _ heq
      exact ne_of_isBare hc rfl (List.cons.inj heq).1
  have hnotHeader : (s.line ++ rest).head? ≠ some '[' := by
    rw [hhead, List.head?_cons, ne_eq, Option.some.injEq]
    exact ne_of_isBare hc rfl
  rw [statement?, hnotEmpty]
  dsimp only
  rw [afterSpaces_line, if_neg hnotHeader, pair?_line]
  rfl

/-- The pairs that a document of settings is read as. -/
def pairs : List Setting → List Pair
  | [] => []
  | s :: more => s.pair (document more) :: pairs more

theorem document_cons (s : Setting) (more : List Setting) :
    document (s :: more) = s.line ++ document more :=
  rfl

theorem statements?_document (settings : List Setting) (done : List Statement) {fuel : Nat}
    (hfuel : settings.length ≤ fuel) :
    statements? done fuel (document settings) = some (done.reverse ++ (pairs settings).map .pair) := by
  induction settings generalizing done fuel with
  | nil => simp [document, statements?, pairs]
  | cons s more ih =>
      obtain ⟨c, after, hhead, -⟩ := s.exists_line_cons (document more)
      cases fuel with
      | zero => cases hfuel
      | succ fuel =>
          rw [document_cons, statements?, statement?_line]
          · simp only [Option.bind_eq_bind, Option.bind_some]
            rw [ih _ (Nat.le_of_succ_le_succ hfuel), List.reverse_cons, List.append_assoc]
            rfl
          · intro hnil
            rw [hhead] at hnil
            cases hnil

theorem length_le_document (settings : List Setting) :
    settings.length ≤ (document settings).length := by
  induction settings with
  | nil => exact Nat.le_refl 0
  | cons s more ih =>
      rw [document_cons, List.length_append, List.length_cons]
      have hline : s.line.length = s.name.length + s.written.length + 4 := by
        simp [line]
        omega
      omega

theorem sections_map_pair (pairs : List Pair) : sections (pairs.map .pair) = (pairs, []) := by
  induction pairs with
  | nil => rfl
  | cons pair pairs ih => rw [List.map_cons, sections, ih]

/-- What the table of a document of settings holds. -/
def entries (settings : List Setting) : Entries :=
  (pairs settings).map fun pair => (pair.key.name, pair.value)

/-- Pairs whose keys are not there yet are added at the end. -/
theorem addPairs_pairs {settings : List Setting} {held : Entries}
    (hnodup : (held.map Prod.fst ++ settings.map (·.name)).Nodup) :
    Entries.addPairs held (pairs settings) = some (held ++ entries settings) := by
  induction settings generalizing held with
  | nil => simp [Entries.addPairs, pairs, entries]
  | cons s more ih =>
      have hfree : held.lookup s.name = none := by
        rw [List.lookup_eq_none_iff]
        intro entry hentry
        rw [bne_iff_ne]
        intro heq
        have hdisjoint := (List.nodup_append.mp hnodup).2.2
        exact hdisjoint entry.1 (List.mem_map_of_mem hentry) s.name List.mem_cons_self heq.symm
      have hadd : Entries.addPair (s.pair (document more)).key (s.pair (document more)).value false
          [] held = some (held ++ [(s.name, (s.pair (document more)).value)]) := by
        rw [Entries.addPair, if_neg]
        · rfl
        · show ¬ (false || (held.lookup s.name).isSome) = true
          rw [hfree]
          exact Bool.false_ne_true
      have hlonger : ((held ++ [(s.name, (s.pair (document more)).value)]).map Prod.fst ++
          more.map (·.name)).Nodup := by
        simpa using hnodup
      have hlater := ih hlonger
      rw [Entries.addPairs] at hlater ⊢
      rw [pairs, List.foldlM_cons]
      show (Entries.addPair _ _ false [] held).bind _ = _
      rw [hadd, Option.bind_some, hlater, List.append_assoc]
      rfl

theorem head?_document (settings : List Setting) :
    (document settings).head?.any (·.toNat = 0xFEFF) = false := by
  cases settings with
  | nil => rfl
  | cons s more =>
      obtain ⟨c, after, hhead, hc⟩ := s.exists_line_cons (document more)
      have hne : c.toNat ≠ 0xFEFF := by
        intro heq
        have hmark : c = Char.ofNat 0xFEFF := by rw [← heq, Char.ofNat_toNat]
        exact ne_of_isBare hc (by decide) hmark
      rw [document_cons, hhead]
      simpa using hne

/-- **A document of settings is read as the table of their values.** -/
theorem read?_document {settings : List Setting} (hnodup : (settings.map (·.name)).Nodup) :
    ∃ document, Document.read? (Setting.document settings) = some document ∧
      document.entries = entries settings := by
  have hfuel : settings.length ≤ (document settings).length + 1 :=
    Nat.le_succ_of_le (length_le_document settings)
  have hadd : Entries.addPairs [] (pairs settings) = some ([] ++ entries settings) :=
    addPairs_pairs (by simpa using hnodup)
  unfold Document.read?
  rw [head?_document, if_neg Bool.false_ne_true]
  simp only [statements?_document settings [] hfuel, List.reverse_nil, List.nil_append,
    Option.bind_eq_bind, Option.bind_some, sections_map_pair, hadd]
  exact ⟨_, rfl, rfl⟩

/-! ## What the table holds -/

theorem entries_cons (s : Setting) (more : List Setting) :
    ∃ extent, entries (s :: more) = (s.name, .scalar s.value extent) :: entries more :=
  ⟨_, rfl⟩

theorem exists_of_mem_entries {settings : List Setting} {name : Text} {node : Node}
    (hmem : (name, node) ∈ entries settings) :
    ∃ s ∈ settings, ∃ extent, name = s.name ∧ node = .scalar s.value extent := by
  induction settings with
  | nil => cases hmem
  | cons s more ih =>
      obtain ⟨extent, hentries⟩ := entries_cons s more
      rw [hentries] at hmem
      rcases List.mem_cons.mp hmem with heq | hlater
      · cases heq
        exact ⟨s, List.mem_cons_self, extent, rfl, rfl⟩
      · obtain ⟨other, hother, hsame⟩ := ih hlater
        exact ⟨other, List.mem_cons_of_mem s hother, hsame⟩

theorem lookup_entries_of_mem {settings : List Setting} {s : Setting}
    (hnodup : (settings.map (·.name)).Nodup) (hs : s ∈ settings) :
    ∃ extent, (entries settings).lookup s.name = some (.scalar s.value extent) := by
  induction settings with
  | nil => cases hs
  | cons first more ih =>
      obtain ⟨extent, hentries⟩ := entries_cons first more
      rw [List.map_cons, List.nodup_cons] at hnodup
      rw [hentries, List.lookup_cons]
      rcases List.mem_cons.mp hs with rfl | hlater
      · exact ⟨extent, by rw [beq_self_eq_true]⟩
      · have hne : (s.name == first.name) = false := by
          apply beq_false_of_ne
          intro heq
          exact hnodup.1 (heq ▸ List.mem_map_of_mem hlater)
        rw [hne]
        exact ih hnodup.2 hlater

theorem lookup_entries_of_not_mem {settings : List Setting} {name : Text}
    (hname : name ∉ settings.map (·.name)) : (entries settings).lookup name = none := by
  rw [List.lookup_eq_none_iff]
  rintro ⟨other, node⟩ hmem
  obtain ⟨s, hs, extent, rfl, -⟩ := exists_of_mem_entries hmem
  rw [bne_iff_ne]
  rintro rfl
  exact hname (List.mem_map_of_mem hs)

end Setting

end OperatorNames.Toml
