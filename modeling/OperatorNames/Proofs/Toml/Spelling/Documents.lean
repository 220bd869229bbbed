import OperatorNames.Proofs.Toml.Spelling.Values
import OperatorNames.Proofs.Toml.Tables

/-!
# How documents are written

A document is a list of lines, each of which may hold a statement and a comment (`SpellsDocument`).
What it says is the list of its statements, and the table that it denotes is built from these in
steps (`Denotes`).  A text is read just if it denotes a table, and then as that table
(`read?_of_denotes`, `denotes_of_read?`).
-/

namespace OperatorNames.Toml

open Text

/-- A statement: a pair, or a header in one pair of brackets or in two. -/
inductive SpellsStatement : Text → Statement → Prop
  | pair {w : Text} {pair : Pair} (hw : SpellsPair (SpellsValue deepest) w pair) :
      SpellsStatement w (.pair pair)
  | header {s k : Text} {path : List Key} {key : Key} (hs : Spaces s)
      (hk : SpellsKey deepest k path key) :
      SpellsStatement (s ++ '[' :: (k ++ [']'])) (.header false path key .nowhere)
  | repeated {s k : Text} {path : List Key} {key : Key} (hs : Spaces s)
      (hk : SpellsKey deepest k path key) :
      SpellsStatement (s ++ '[' :: '[' :: (k ++ [']', ']'])) (.header true path key .nowhere)

/-- A line without its end, with the statement on it if there is one. -/
inductive SpellsLine : Text → List Statement → Prop
  | blank {s c : Text} (hs : Spaces s) (hc : Comment c) : SpellsLine (s ++ c) []
  | statement {w s c : Text} {statement : Statement} (hw : SpellsStatement w statement)
      (hs : Spaces s) (hc : Comment c) : SpellsLine (w ++ (s ++ c)) [statement]

/-- Lines, with the statements on them. -/
inductive SpellsLines : Text → List Statement → Prop
  | last {l : Text} {statements : List Statement} (hl : SpellsLine l statements) :
      SpellsLines l statements
  | more {l f v : Text} {statements later : List Statement} (hl : SpellsLine l statements)
      (hf : LineFeed f) (hv : SpellsLines v later) :
      SpellsLines (l ++ (f ++ v)) (statements ++ later)

/-- Whether a character marks the order of bytes. -/
def isByteOrderMark (c : Char) : Bool :=
  c.toNat = 0xFEFF

/-- A document, which may start with a byte order mark, and its statements. -/
inductive SpellsDocument : Text → List Statement → Prop
  | plain {w : Text} {statements : List Statement} (hmark : BeginsNot isByteOrderMark w)
      (hw : SpellsLines w statements) : SpellsDocument w statements
  | marked {c : Char} {w : Text} {statements : List Statement} (hmark : isByteOrderMark c = true)
      (hw : SpellsLines w statements) : SpellsDocument (c :: w) statements

/-- The steps in which the table of a document is built: first the pairs before the first header,
then the sections. -/
def steps (statements : List Statement) : List Step :=
  (sections statements).1.map .pair ++ (sections statements).2.map .part

/-- A text is a well-formed document, and this is its table. -/
def Denotes (t : Text) (root : Entries) : Prop :=
  ∃ statements, SpellsDocument t statements ∧
    Step.applyAll (steps statements) [] = some root

/-! ## Ends of lines -/

/-- A line ends, or the document does. -/
inductive LineBreak : Text → Text → Prop
  | feed {f : Text} (hf : LineFeed f) (rest : Text) : LineBreak (f ++ rest) rest
  | document : LineBreak [] []

theorem afterLine?_append {s c t rest : Text} (hs : Spaces s) (hc : Comment c)
    (ht : LineBreak t rest) : afterLine? (s ++ (c ++ t)) = some rest := by
  cases ht with
  | document =>
      rw [afterLine?, afterSpaces_append hs (hc.beginsNot_space (beginsNot_nil _)),
        afterComment_append hc (beginsNot_nil _)]
  | feed hf =>
      have hend := lineEnd?_append hf rest
      rw [afterLine?, afterSpaces_append hs (hc.beginsNot_space (hf.beginsNot_space _)),
        afterComment_append hc (hf.beginsNot_plain _)]
      split
      · next hnil =>
          rw [hnil] at hend
          cases hend
      · exact hend

theorem exists_lineBreak {t rest : Text} (hread : afterLine? t = some rest) :
    ∃ s c u, t = s ++ (c ++ u) ∧ Spaces s ∧ Comment c ∧ LineBreak u rest := by
  obtain ⟨s, hs, hspaces⟩ := exists_spaces t
  obtain ⟨c, hc, hcomment, -⟩ := exists_comment (afterSpaces t)
  refine ⟨s, c, afterComment (afterSpaces t), by rw [← hc, ← hs], hspaces, hcomment, ?_⟩
  unfold afterLine? at hread
  split at hread
  · next hnil =>
      cases hread
      rw [hnil]
      exact .document
  · obtain ⟨f, hf, hline⟩ := lineEnd?_eq_some hread
    rw [hline]
    exact .feed hf rest

theorem LineBreak.closes {s c t rest : Text} (hs : Spaces s) (hc : Comment c)
    (ht : LineBreak t rest) : Closes (s ++ (c ++ t)) := by
  cases ht with
  | feed hf => exact closes_lineFeed hs hc hf rest
  | document =>
      refine closes_append hs fun d hd => ?_
      cases hc with
      | absent => cases hd
      | written hplain =>
          cases hd
          rfl

/-- A line on which something other than a comment stands is not empty. -/
theorem afterLine?_eq_none {t : Text} (ht : AfterGap (afterSpaces t)) : afterLine? t = none := by
  have hend := ht.lineEnd?
  rw [afterLine?, ht.afterComment]
  split
  · next hnil =>
      obtain ⟨c, more, hcons, -⟩ := ht
      rw [hnil] at hcons
      cases hcons
  · exact hend

/-! ## Statements -/

/-- What a line says: nothing, or its statement without its places. -/
def Statement.said : Statement → List Statement
  | .empty => []
  | .pair p => [.pair p.unplaced]
  | .header repeated path key _ =>
    [.header repeated (path.map Key.unplaced) key.unplaced .nowhere]

theorem key?_afterSpaces (most : Nat) (t : Text) : key? most (afterSpaces t) = key? most t := by
  have htwice : afterSpaces (afterSpaces t) = afterSpaces t :=
    afterSpaces_append .nil (beginsNot_afterSpaces t)
  cases most with
  | zero => rfl
  | succ most => rw [key?, key?, htwice]

theorem pair?_afterSpaces (read : Text → Option (Node × Text)) (t : Text) :
    pair? read (afterSpaces t) = pair? read t := by
  rw [pair?, pair?, key?_afterSpaces]

theorem SpellsKey.spaces {most : Nat} {s k : Text} {path : List Key} {key : Key} (hs : Spaces s)
    (hk : SpellsKey most k path key) : SpellsKey most (s ++ k) path key := by
  cases hk with
  | last hs' hw hs'' =>
      rw [← List.append_assoc]
      exact .last (hs.append hs') hw hs''
  | dot hs' hw hs'' hv =>
      rw [← List.append_assoc]
      exact .dot (hs.append hs') hw hs'' hv

theorem header?_single {k t : Text} {path : List Key} {key : Key}
    (hk : SpellsKey deepest k path key) :
    ∃ placed, header? ('[' :: (k ++ ']' :: t)) = some (placed, t) ∧
      placed.said = [.header false path key .nowhere] := by
  obtain ⟨path', key', hkey, hpath, hlast⟩ := key?_append hk
    (beginsNot_cons rfl t : BeginsNot keyGoesOn (']' :: t))
  refine ⟨.header false path' key' ⟨'[' :: (k ++ ']' :: t), t⟩, ?_, ?_⟩
  · rw [header?]
    · simp only [hkey, Option.bind_eq_bind, Option.bind_some, dropStart?, if_pos]
    · -- a key does not begin with a bracket
      intro rest heq
      refine hk.afterSpaces_ne (c := '[') (by decide) (']' :: t) rest ?_
      rw [heq, afterSpaces_of_not_isSpace rfl]
  · rw [Statement.said, hpath, hlast]

theorem header?_double {k t : Text} {path : List Key} {key : Key}
    (hk : SpellsKey deepest k path key) :
    ∃ placed, header? ('[' :: '[' :: (k ++ ']' :: ']' :: t)) = some (placed, t) ∧
      placed.said = [.header true path key .nowhere] := by
  obtain ⟨path', key', hkey, hpath, hlast⟩ := key?_append hk
    (beginsNot_cons rfl (']' :: t) : BeginsNot keyGoesOn (']' :: ']' :: t))
  refine ⟨.header true path' key' ⟨'[' :: '[' :: (k ++ ']' :: ']' :: t), t⟩, ?_, ?_⟩
  · rw [header?]
    simp only [hkey, Option.bind_eq_bind, Option.bind_some, dropStart?, if_pos]
  · rw [Statement.said, hpath, hlast]

theorem exists_header {t rest : Text} {placed : Statement}
    (hread : header? t = some (placed, rest)) :
    ∃ w statement, t = w ++ rest ∧ placed.said = [statement] ∧ SpellsStatement w statement := by
  unfold header? at hread
  split at hread
  · simp only [Option.bind_eq_bind, Option.bind_eq_some_iff] at hread
    obtain ⟨⟨⟨path, key⟩, after⟩, hkey, last, hclose, heq⟩ := hread
    cases heq
    obtain ⟨k, rfl, hk⟩ := exists_spellsKey hkey
    obtain rfl := dropStart?_eq_some hclose
    exact ⟨[] ++ '[' :: '[' :: (k ++ [']', ']']), _, by simp, rfl, .repeated .nil hk⟩
  · simp only [Option.bind_eq_bind, Option.bind_eq_some_iff] at hread
    obtain ⟨⟨⟨path, key⟩, after⟩, hkey, last, hclose, heq⟩ := hread
    cases heq
    obtain ⟨k, rfl, hk⟩ := exists_spellsKey hkey
    obtain rfl := dropStart?_eq_some hclose
    exact ⟨[] ++ '[' :: (k ++ [']']), _, by simp, rfl, .header .nil hk⟩
  · cases hread

theorem SpellsStatement.spaces {s w : Text} {statement : Statement} (hs : Spaces s)
    (hw : SpellsStatement w statement) : SpellsStatement (s ++ w) statement := by
  cases hw with
  | pair hw =>
      cases hw with
      | pair hk hs' hw =>
          rw [← List.append_assoc]
          exact .pair (.pair (hk.spaces hs) hs' hw)
  | header hs' hk =>
      rw [← List.append_assoc]
      exact .header (hs.append hs') hk
  | repeated hs' hk =>
      rw [← List.append_assoc]
      exact .repeated (hs.append hs') hk

/-- Reads a statement after its blanks. -/
def said? (t : Text) : Option (Statement × Text) :=
  if t.head? = some '[' then header? t
  else (pair? (value? deepest) t).map fun found => (.pair found.1, found.2)

theorem said?_append {w rest : Text} {statement : Statement} (hw : SpellsStatement w statement)
    (hrest : Closes rest) :
    AfterGap (afterSpaces (w ++ rest)) ∧
      ∃ placed, said? (afterSpaces (w ++ rest)) = some (placed, rest) ∧
        placed.said = [statement] := by
  cases hw with
  | pair hw =>
      obtain ⟨placed, hplaced, hsame⟩ := (reader_value? deepest).pair?_append hw hrest
      rw [← pair?_afterSpaces] at hplaced
      cases hw with
      | pair hk hs hw =>
          rw [List.append_assoc] at hplaced ⊢
          obtain ⟨c, more, hcons, hc⟩ := hk.exists_afterSpaces _
          rw [hcons] at hplaced ⊢
          have hbracket : (c :: more).head? ≠ some '[' := by
            intro heq
            cases heq
            exact hk.afterSpaces_ne (by decide) _ more hcons
          refine ⟨⟨c, more, rfl, ?_⟩, .pair placed, ?_, ?_⟩
          · rcases hc with hbare | rfl | rfl
            · exact endsGap_of_isBare hbare
            · rfl
            · rfl
          · rw [said?, if_neg hbracket, hplaced]
            rfl
          · rw [Statement.said, hsame]
  | @header s k path key hs hk =>
      obtain ⟨placed, hplaced, hsaid⟩ := header?_single (t := rest) hk
      have hafter : afterSpaces (s ++ '[' :: (k ++ ']' :: rest)) = '[' :: (k ++ ']' :: rest) :=
        afterSpaces_append hs (beginsNot_cons rfl _)
      simp only [List.append_assoc, List.cons_append, List.nil_append, hafter]
      exact ⟨⟨_, _, rfl, rfl⟩, placed, hplaced, hsaid⟩
  | @repeated s k path key hs hk =>
      obtain ⟨placed, hplaced, hsaid⟩ := header?_double (t := rest) hk
      have hafter : afterSpaces (s ++ '[' :: '[' :: (k ++ ']' :: ']' :: rest)) =
          '[' :: '[' :: (k ++ ']' :: ']' :: rest) :=
        afterSpaces_append hs (beginsNot_cons rfl _)
      simp only [List.append_assoc, List.cons_append, List.nil_append, hafter]
      exact ⟨⟨_, _, rfl, rfl⟩, placed, hplaced, hsaid⟩

theorem exists_said {t rest : Text} {placed : Statement} (hread : said? t = some (placed, rest)) :
    ∃ w statement, t = w ++ rest ∧ placed.said = [statement] ∧ SpellsStatement w statement := by
  unfold said? at hread
  split at hread
  · exact exists_header hread
  · obtain ⟨⟨pair, after⟩, hpair, heq⟩ := Option.map_eq_some_iff.mp hread
    cases heq
    obtain ⟨w, rfl, hw⟩ := (reader_value? deepest).exists_spellsPair hpair
    exact ⟨w, _, rfl, rfl, .pair hw⟩

/-! ## Lines -/

theorem statement?_of_blank {t rest : Text} (hline : afterLine? t = some rest) :
    statement? t = some (.empty, rest) := by
  rw [statement?, hline]

theorem statement?_of_not_blank {t : Text} (hline : afterLine? t = none) :
    statement? t = (said? (afterSpaces t)).bind fun found =>
      (afterLine? found.2).bind fun rest => some (found.1, rest) := by
  rw [statement?, hline]
  dsimp only
  rw [said?]
  split
  · rfl
  · rfl

theorem statement?_append {l t rest : Text} {statements : List Statement}
    (hl : SpellsLine l statements) (ht : LineBreak t rest) :
    ∃ placed, statement? (l ++ t) = some (placed, rest) ∧ placed.said = statements := by
  cases hl with
  | blank hs hc =>
      rw [List.append_assoc]
      exact ⟨.empty, statement?_of_blank (afterLine?_append hs hc ht), rfl⟩
  | statement hw hs hc =>
      obtain ⟨hgap, placed, hplaced, hsaid⟩ := said?_append hw (ht.closes hs hc)
      refine ⟨placed, ?_, hsaid⟩
      rw [List.append_assoc, List.append_assoc, statement?_of_not_blank (afterLine?_eq_none hgap),
        hplaced, Option.bind_some, afterLine?_append hs hc ht]
      rfl

theorem exists_spellsLine {t rest : Text} {placed : Statement}
    (hread : statement? t = some (placed, rest)) :
    ∃ l u, t = l ++ u ∧ SpellsLine l placed.said ∧ LineBreak u rest := by
  cases hline : afterLine? t with
  | some after =>
      rw [statement?_of_blank hline] at hread
      cases hread
      obtain ⟨s, c, u, rfl, hs, hc, hu⟩ := exists_lineBreak hline
      exact ⟨s ++ c, u, (List.append_assoc s c u).symm, .blank hs hc, hu⟩
  | none =>
      rw [statement?_of_not_blank hline] at hread
      obtain ⟨⟨statement, after⟩, hsaid, hread⟩ := Option.bind_eq_some_iff.mp hread
      obtain ⟨last, hafter, heq⟩ := Option.bind_eq_some_iff.mp hread
      cases heq
      obtain ⟨w, said, hw, hstatement, hspells⟩ := exists_said hsaid
      obtain ⟨s, hs, hspaces⟩ := exists_spaces t
      obtain ⟨s', c, u, hu, hs', hc, hbreak⟩ := exists_lineBreak hafter
      refine ⟨s ++ w ++ (s' ++ c), u, ?_, ?_, hbreak⟩
      · rw [hs, hw]
        dsimp only at hu
        rw [hu]
        simp
      · rw [hstatement]
        exact .statement (hspells.spaces hspaces) hs' hc

theorem statements?_nil (done : List Statement) (fuel : Nat) :
    statements? done fuel [] = some done.reverse := by
  cases fuel with
  | zero => rfl
  | succ fuel => rfl

theorem statements?_cons {t rest : Text} {placed : Statement} (ht : t ≠ [])
    (hplaced : statement? t = some (placed, rest)) (done : List Statement) (fuel : Nat) :
    statements? done (fuel + 1) t = statements? (placed :: done) fuel rest := by
  rw [statements?, hplaced]
  · rfl
  · exact ht

theorem statements?_append {w : Text} {statements : List Statement} (hw : SpellsLines w statements)
    (done : List Statement) {fuel : Nat} (hfuel : w.length ≤ fuel) :
    ∃ placed, statements? done fuel w = some (done.reverse ++ placed) ∧
      placed.flatMap Statement.said = statements := by
  induction hw generalizing done fuel with
  | @last l statements hl =>
      obtain ⟨placed, hplaced, hsaid⟩ := statement?_append hl .document
      rw [List.append_nil] at hplaced
      cases l with
      | nil =>
          cases hplaced
          exact ⟨[], by rw [statements?_nil, List.append_nil], hsaid⟩
      | cons c l =>
          rw [List.length_cons] at hfuel
          obtain ⟨fuel, rfl⟩ : ∃ less, fuel = less + 1 := ⟨fuel - 1, by omega⟩
          refine ⟨[placed], ?_, by simpa using hsaid⟩
          rw [statements?_cons (List.cons_ne_nil c l) hplaced, statements?_nil, List.reverse_cons]
  | @more l f v statements later hl hf hv ih =>
      obtain ⟨placed, hplaced, hsaid⟩ := statement?_append hl (.feed hf v)
      obtain ⟨d, more, hd, -, -⟩ := hf.exists_cons
      have hlength : f.length = more.length + 1 := by rw [hd, List.length_cons]
      simp only [List.length_append] at hfuel
      obtain ⟨fuel, rfl⟩ : ∃ less, fuel = less + 1 := ⟨fuel - 1, by omega⟩
      have hfits : v.length ≤ fuel := by omega
      obtain ⟨rest, hrest, hlater⟩ := ih (placed :: done) hfits
      refine ⟨placed :: rest, ?_, by rw [List.flatMap_cons, hsaid, hlater]⟩
      have hne : l ++ (f ++ v) ≠ [] := by simp [hd]
      rw [statements?_cons hne hplaced, hrest, List.reverse_cons, ← List.append_cons]

theorem exists_spellsLines {done statements : List Statement} {fuel : Nat} {t : Text}
    (hread : statements? done fuel t = some statements) :
    ∃ placed, statements = done.reverse ++ placed ∧
      SpellsLines t (placed.flatMap Statement.said) := by
  induction fuel generalizing done t with
  | zero =>
      cases t with
      | nil =>
          cases hread
          exact ⟨[], (List.append_nil _).symm, .last (.blank .nil .absent)⟩
      | cons c t => cases hread
  | succ fuel ih =>
      cases t with
      | nil =>
          cases hread
          exact ⟨[], (List.append_nil _).symm, .last (.blank .nil .absent)⟩
      | cons c t =>
          cases hplaced : statement? (c :: t) with
          | none =>
              rw [statements?, hplaced] at hread
              · cases hread
              · exact List.cons_ne_nil c t
          | some found =>
              obtain ⟨placed, rest⟩ := found
              rw [statements?_cons (List.cons_ne_nil c t) hplaced] at hread
              obtain ⟨l, u, ht, hl, hu⟩ := exists_spellsLine hplaced
              rw [ht]
              cases hu with
              | feed hf =>
                  obtain ⟨more, rfl, hmore⟩ := ih hread
                  refine ⟨placed :: more, by rw [List.reverse_cons, ← List.append_cons], ?_⟩
                  exact .more hl hf hmore
              | document =>
                  rw [statements?_nil] at hread
                  cases hread
                  refine ⟨[placed], List.reverse_cons, ?_⟩
                  simpa using SpellsLines.last hl

/-! ## Documents -/

/-- A document after its byte order mark. -/
def afterMark (t : Text) : Text :=
  if t.head?.any isByteOrderMark then t.tail else t

theorem statements?_afterMark {t : Text} {statements : List Statement}
    (ht : SpellsDocument t statements) :
    ∃ placed, statements? [] ((afterMark t).length + 1) (afterMark t) = some placed ∧
      placed.flatMap Statement.said = statements := by
  have hlines {w : Text} (hw : SpellsLines w statements) :
      ∃ placed, statements? [] (w.length + 1) w = some placed ∧
        placed.flatMap Statement.said = statements :=
    statements?_append hw [] (Nat.le_succ _)
  cases ht with
  | plain hmark hw =>
      have hafter : afterMark t = t := by
        rw [afterMark, if_neg]
        cases t with
        | nil => exact Bool.false_ne_true
        | cons c t =>
            rw [List.head?_cons, Option.any_some, hmark.of_cons]
            exact Bool.false_ne_true
      rw [hafter]
      exact hlines hw
  | @marked c w statements hmark hw =>
      have hafter : afterMark (c :: w) = w := if_pos hmark
      rw [hafter]
      exact hlines hw

theorem spellsDocument_of_statements? {t : Text} {fuel : Nat} {placed : List Statement}
    (hread : statements? [] fuel (afterMark t) = some placed) :
    SpellsDocument t (placed.flatMap Statement.said) := by
  obtain ⟨more, rfl, hlines⟩ := exists_spellsLines hread
  cases t with
  | nil => exact .plain (beginsNot_nil _) hlines
  | cons c t =>
      by_cases hmark : isByteOrderMark c = true
      · have hafter : afterMark (c :: t) = t := if_pos hmark
        rw [hafter] at hlines
        exact .marked hmark hlines
      · have hafter : afterMark (c :: t) = c :: t := if_neg hmark
        rw [hafter] at hlines
        exact .plain (beginsNot_cons (by simpa using hmark) t) hlines

/-- What a document says is what is read of it, without places. -/
theorem spellsDocument_iff (t : Text) (statements : List Statement) :
    SpellsDocument t statements ↔
      (statements? [] ((afterMark t).length + 1) (afterMark t)).map
        (List.flatMap Statement.said) = some statements := by
  constructor
  · intro ht
    obtain ⟨placed, hplaced, rfl⟩ := statements?_afterMark ht
    rw [hplaced]
    rfl
  · intro hread
    obtain ⟨placed, hplaced, rfl⟩ := Option.map_eq_some_iff.mp hread
    exact spellsDocument_of_statements? hplaced

/-- A document says one thing. -/
theorem SpellsDocument.unique {t : Text} {statements others : List Statement}
    (ht : SpellsDocument t statements) (hothers : SpellsDocument t others) :
    statements = others := by
  rw [spellsDocument_iff] at ht hothers
  exact Option.some.inj (ht.symm.trans hothers)

theorem SpellsLines.append {a f b : Text} {statements later : List Statement}
    (ha : SpellsLines a statements) (hf : LineFeed f) (hb : SpellsLines b later) :
    SpellsLines (a ++ (f ++ b)) (statements ++ later) := by
  induction ha with
  | last hl => exact .more hl hf hb
  | more hl hf' _ ih =>
      rw [List.append_assoc, List.append_assoc, List.append_assoc]
      exact .more hl hf' ih

/-- Lines may follow a document; what they say comes after what it says. -/
theorem SpellsDocument.append {a f b : Text} {statements later : List Statement}
    (ha : SpellsDocument a statements) (hf : LineFeed f) (hb : SpellsLines b later) :
    SpellsDocument (a ++ (f ++ b)) (statements ++ later) := by
  cases ha with
  | marked hmark hw => exact .marked hmark (hw.append hf hb)
  | plain hmark hw =>
      refine .plain ?_ (hw.append hf hb)
      cases a with
      | cons c a => exact beginsNot_cons hmark.of_cons _
      | nil =>
          cases hf with
          | plain => exact beginsNot_cons rfl _
          | withReturn => exact beginsNot_cons rfl _

/-- A key without quotes and a value without parts may make up a line. -/
theorem spellsLine_of_scalar {name w : Text} {value : Scalar} (hname : name ≠ [])
    (hbare : ∀ c ∈ name, isBare c = true) (hw : SpellsScalar w value) :
    SpellsLine (name ++ '=' :: w) [.pair ⟨[], .named name, .scalar value .nowhere⟩] := by
  have hkey : SpellsKey deepest ([] ++ (name ++ [])) [] (.named name) :=
    .last .nil (.bare hname hbare) .nil
  have hpair : SpellsPair (SpellsValue deepest) ([] ++ (name ++ []) ++ '=' :: ([] ++ w))
      ⟨[], .named name, .scalar value .nowhere⟩ := .pair hkey .nil (.inl ⟨value, hw, rfl⟩)
  have hline := SpellsLine.statement (.pair hpair) .nil .absent
  simpa using hline

/-! ## The table of a document -/

/-- What sections make of a table, one after the other. -/
def addSections (parts : List Section) (entries : Entries) : Option Entries :=
  parts.foldlM (fun entries part => Entries.addSection part part.path entries) entries

theorem applyAll_steps (statements : List Statement) :
    Step.applyAll (steps statements) [] =
      (Entries.addPairs [] (sections statements).1).bind (addSections (sections statements).2) := by
  rw [Step.applyAll, steps, List.foldlM_append, List.foldlM_map]
  simp only [List.foldlM_map]
  rfl

theorem Node.extent_unplaced (node : Node) : node.unplaced.extent = .nowhere := by
  have htables (items : List (Entries × Extent)) :
      ∀ item ∈ unplacedTables items, item.2 = .nowhere := by
    induction items with
    | nil => exact nofun
    | cons item items ih =>
        rw [unplacedTables]
        exact List.forall_mem_cons.mpr ⟨rfl, ih⟩
  cases node with
  | tables items =>
      have hhead : ((unplacedTables items).head?.map (·.2.opening)).getD [] = [] := by
        cases hitem : (unplacedTables items).head? with
        | none => rfl
        | some item =>
            show item.2.opening = []
            rw [htables items item (List.mem_of_mem_head? hitem)]
            rfl
      have hlast : ((unplacedTables items).getLast?.map (·.2.closing)).getD [] = [] := by
        cases hitem : (unplacedTables items).getLast? with
        | none => rfl
        | some item =>
            show item.2.closing = []
            rw [htables items item (List.mem_of_getLast? hitem)]
            rfl
      rw [Node.unplaced, Node.extent, hhead, hlast]
      rfl
  | _ => rfl

theorem sections_said (statements : List Statement) :
    sections (statements.flatMap Statement.said) =
      ((sections statements).1.map Pair.unplaced,
        (sections statements).2.map Section.unplaced) := by
  induction statements with
  | nil => rfl
  | cons statement statements ih =>
      rw [List.flatMap_cons]
      cases statement with
      | empty => exact ih
      | pair p =>
          rw [Statement.said, List.singleton_append, sections, ih]
          rfl
      | header repeated path key extent =>
          have hextent : (⟨[], (((sections statements).1.map Pair.unplaced).getLast?.map
              (·.value.extent.closing)).getD []⟩ : Extent) = .nowhere := by
            rw [List.getLast?_map]
            cases (sections statements).1.getLast? with
            | none => rfl
            | some pair =>
                show (⟨[], pair.value.unplaced.extent.closing⟩ : Extent) = .nowhere
                rw [Node.extent_unplaced]
                rfl
          rw [Statement.said, List.singleton_append, sections, ih]
          exact congrArg (fun place => ([], (⟨repeated, path.map Key.unplaced, key.unplaced,
            (sections statements).1.map Pair.unplaced, place⟩ : Section) ::
              (sections statements).2.map Section.unplaced)) hextent

theorem addSections_unplaced (parts : List Section) (entries : Entries) :
    addSections (parts.map Section.unplaced) (unplacedEntries entries) =
      (addSections parts entries).map unplacedEntries := by
  induction parts generalizing entries with
  | nil => rfl
  | cons part parts ih =>
      show (Entries.addSection part.unplaced (part.path.map Key.unplaced)
        (unplacedEntries entries)).bind (addSections _) =
          ((Entries.addSection part part.path entries).bind (addSections parts)).map _
      rw [Entries.unplaced_addSection]
      cases Entries.addSection part part.path entries with
      | none => rfl
      | some next => exact ih next

/-- The table that is built from what a document says is that which is read, without its places. -/
theorem applyAll_said (statements : List Statement) :
    Step.applyAll (steps (statements.flatMap Statement.said)) [] =
      (Step.applyAll (steps statements) []).map unplacedEntries := by
  rw [applyAll_steps, applyAll_steps, sections_said, addPairs_unplaced]
  cases Entries.addPairs [] (sections statements).1 with
  | none => rfl
  | some entries => exact addSections_unplaced (sections statements).2 entries

theorem exists_of_read? {t : Text} {document : Document}
    (hread : Document.read? t = some document) :
    ∃ placed, statements? [] ((afterMark t).length + 1) (afterMark t) = some placed ∧
      Step.applyAll (steps placed) [] = some document.entries := by
  simp only [Document.read?, Option.bind_eq_bind, Option.bind_eq_some_iff] at hread
  obtain ⟨placed, hplaced, entries, hentries, last, hlast, heq⟩ := hread
  cases heq
  refine ⟨placed, hplaced, ?_⟩
  rw [applyAll_steps, hentries]
  exact hlast

theorem exists_read? {t : Text} {placed : List Statement} {entries : Entries}
    (hplaced : statements? [] ((afterMark t).length + 1) (afterMark t) = some placed)
    (hentries : Step.applyAll (steps placed) [] = some entries) :
    ∃ extent, Document.read? t = some ⟨entries, extent⟩ := by
  rw [applyAll_steps] at hentries
  obtain ⟨own, hown, hlast⟩ := Option.bind_eq_some_iff.mp hentries
  have hstatements : statements? []
      ((if t.head?.any (·.toNat = 0xFEFF) then t.tail else t).length + 1)
      (if t.head?.any (·.toNat = 0xFEFF) then t.tail else t) = some placed := hplaced
  rw [addSections] at hlast
  simp only [Document.read?, hstatements, Option.bind_eq_bind, Option.bind_some, hown, hlast]
  exact ⟨_, rfl⟩

/-- **A text that is read denotes what is read.** -/
theorem denotes_of_read? {t : Text} {document : Document}
    (hread : Document.read? t = some document) : Denotes t (unplacedEntries document.entries) := by
  obtain ⟨placed, hplaced, hentries⟩ := exists_of_read? hread
  refine ⟨_, spellsDocument_of_statements? hplaced, ?_⟩
  rw [applyAll_said, hentries]
  rfl

/-- **A text that denotes a table is read as that table.** -/
theorem read?_of_denotes {t : Text} {root : Entries} (ht : Denotes t root) :
    ∃ document, Document.read? t = some document ∧ unplacedEntries document.entries = root := by
  obtain ⟨statements, hspells, hroot⟩ := ht
  obtain ⟨placed, hplaced, rfl⟩ := statements?_afterMark hspells
  rw [applyAll_said] at hroot
  obtain ⟨entries, hentries, rfl⟩ := Option.map_eq_some_iff.mp hroot
  obtain ⟨extent, hread⟩ := exists_read? hplaced hentries
  exact ⟨_, hread, rfl⟩

/-- A text denotes one table. -/
theorem Denotes.unique {t : Text} {root other : Entries} (hroot : Denotes t root)
    (hother : Denotes t other) : root = other := by
  obtain ⟨statements, hspells, hsteps⟩ := hroot
  obtain ⟨others, hothers, hsteps'⟩ := hother
  rw [hspells.unique hothers] at hsteps
  exact Option.some.inj (hsteps.symm.trans hsteps')

/-- What a text denotes holds under a key what the steps about the key make of nothing. -/
theorem Denotes.heldAfter {t : Text} {root : Entries} {statements : List Statement}
    (hroot : Denotes t root) (hspells : SpellsDocument t statements) (name : Text) :
    Step.heldAfter name (Step.about name (steps statements)) none = some (root.lookup name) := by
  obtain ⟨others, hothers, hsteps⟩ := hroot
  rw [← hspells.unique hothers] at hsteps
  rw [Step.heldAfter_about]
  exact (Step.lookup_applyAll hsteps).2 name

end OperatorNames.Toml
