import OperatorNames.Proofs.Output.Emission
import OperatorNames.Proofs.Text.WordChar

/-!
# Reading output back

What is written for the items of a scan can be read back.  A name consists of inert word characters
only (`isNameChar_of_mem_name`), so that an entry is a string literal without escapes; neither a
token nor a name has a blank, so that a pair can be taken apart at its mark in one way only
(`append_mark_eq_iff`).  `linesOf?` and `pairs?` read octets back by the line feeds and the marks
alone, and the main statement, `output_readable`, says that they find the operators of the scan.
-/

namespace OperatorNames

open Text

/-! ## Characters of tokens and names -/

/-- Whether a character may stand in a name: a word character that separates no segments. -/
def IsNameChar (c : Char) : Prop :=
  isWord c = true ∧ isSeparator c = false

theorem IsNameChar.isInert {c : Char} (h : IsNameChar c) : IsInert c :=
  isInert_of_isWord h.1

theorem isNameChar_of_isTokenChar {c : Char} (htoken : Token.isTokenChar c = true)
    (hseparator : isSeparator c = false) : IsNameChar c := by
  unfold Token.isTokenChar at htoken
  unfold isSeparator at hseparator
  rcases Bool.or_eq_true_iff.mp htoken with hword | hpoint
  · exact ⟨hword, hseparator⟩
  · rw [hpoint] at hseparator
    cases hseparator

/-- The upper case of a character of a name consists of characters of names. -/
theorem isNameChar_of_mem_upper {c d : Char} (hmem : d ∈ upper c) (hc : IsNameChar c) :
    IsNameChar d :=
  ⟨isWord_of_mem_upper hmem hc.1, isSeparator_of_mem_upper hmem hc.2⟩

theorem isNameChar_of_mem_name {op : Operator} (hop : op.IsScanned) {c : Char}
    (hc : c ∈ op.name) : IsNameChar c := by
  obtain ⟨hname, hchars⟩ := hop
  rw [hname] at hc
  obtain ⟨d, hd, hkept, hsource⟩ := exists_of_mem_name hc
  have hchar := isNameChar_of_isTokenChar (hchars d hd) hkept
  rcases hsource with rfl | hupper
  · exact hchar
  · exact isNameChar_of_mem_upper hupper hchar

theorem blank_not_mem_name {op : Operator} (hop : op.IsScanned) : ' ' ∉ op.name := by
  intro hmem
  have hblank := (isNameChar_of_mem_name hop hmem).isInert.not_blank
  cases hblank

theorem blank_not_mem_token {op : Operator} (hop : op.IsScanned) : ' ' ∉ op.token := by
  intro hmem
  have htoken := hop.2 ' ' hmem
  cases htoken

/-! ## Taking a pair apart -/

/-- What stands between the token and the name of a pair. -/
def pairMark : Text :=
  [' ', '-', '-', ' ']

/-- The texts before and after the first mark of a line. -/
def splitAtMark? : Text → Option (Text × Text)
  | [] => none
  | c :: rest =>
    match dropStart? pairMark (c :: rest) with
    | some after => some ([], after)
    | none => (splitAtMark? rest).map fun (before, after) => (c :: before, after)

/-- The operator that a line names as a pair. -/
def pair? (line : Text) : Option Operator :=
  (splitAtMark? line).map fun (token, name) => { token, name }

/-- A line of two words with the mark between them has one mark only. -/
theorem append_mark_eq_iff {token name before after : Text} (htoken : ' ' ∉ token)
    (hname : ' ' ∉ name) :
    token ++ pairMark ++ name = before ++ pairMark ++ after ↔ before = token ∧ after = name := by
  constructor
  · intro heq
    -- each mark has two blanks, so that there is none before or after it
    have hcount := congrArg (List.count ' ') heq
    simp only [List.count_append, List.count_eq_zero_of_not_mem htoken,
      List.count_eq_zero_of_not_mem hname] at hcount
    have hbefore : ' ' ∉ before := by
      apply List.count_eq_zero.mp
      omega
    have hwords : ∀ word rest : Text, ' ' ∉ word →
        (word ++ pairMark ++ rest).takeWhile (· ≠ ' ') = word := by
      intro word rest hword
      rw [List.append_assoc, List.takeWhile_append_of_pos]
      · simp [pairMark]
      · intro c hc
        simpa using fun hblank : c = ' ' => hword (hblank ▸ hc)
    have hsame : before = token := by
      rw [← hwords before after hbefore, ← heq, hwords token name htoken]
    rw [hsame] at heq
    exact ⟨hsame, (List.append_cancel_left heq).symm⟩
  · rintro ⟨rfl, rfl⟩
    rfl

theorem splitAtMark?_pair {token : Text} (htoken : ' ' ∉ token) (name : Text) :
    splitAtMark? (token ++ pairMark ++ name) = some (token, name) := by
  induction token with
  | nil => simp [splitAtMark?, pairMark, dropStart?]
  | cons c token ih =>
      have hc : ' ' ≠ c := fun heq => htoken (heq ▸ List.mem_cons_self)
      have hrest := ih fun hmem => htoken (List.mem_cons_of_mem c hmem)
      rw [List.cons_append, List.cons_append, splitAtMark?, hrest]
      simp [pairMark, dropStart?, hc]

theorem pair?_render {op : Operator} (hop : op.IsScanned) :
    pair? (Style.pair.render op) = some op := by
  have hsplit := splitAtMark?_pair (blank_not_mem_token hop) op.name
  unfold pair?
  rw [show Style.pair.render op = op.token ++ pairMark ++ op.name from rfl, hsplit]
  rfl

/-! ## Reading lines -/

/-- The lines of octets, each of which a line feed ends; `none` where the octets are not UTF-8 or
something follows the last line feed. -/
def linesOf? (b : Bytes) : Option (List Text) :=
  (Utf8.decode b).bind fun t =>
    if (t.splitOn '\n').getLast? = some [] then some (t.splitOn '\n').dropLast else none

/-- The operators of octets that hold one pair on every line. -/
def pairs? (b : Bytes) : Option (List Operator) :=
  (linesOf? b).bind (·.mapM pair?)

theorem splitOn_lines {lines : List Text} (hlines : ∀ line ∈ lines, '\n' ∉ line) :
    (lines.flatMap (· ++ ['\n'])).splitOn '\n' = lines ++ [[]] := by
  induction lines with
  | nil => rfl
  | cons line rest ih =>
      have hrest := ih fun other hother => hlines other (List.mem_cons_of_mem line hother)
      rw [List.flatMap_cons, List.append_assoc, List.singleton_append,
        List.splitOn_append_cons_self_of_not_mem (hlines line List.mem_cons_self), hrest]
      rfl

theorem flatMap_line (style : Style) (ops : List Operator) :
    ops.flatMap style.line = Utf8.encode ((ops.map style.render).flatMap (· ++ ['\n'])) := by
  induction ops with
  | nil => rfl
  | cons op rest ih =>
      rw [List.flatMap_cons, ih, Style.line, ← Utf8.encode_append, List.map_cons, List.flatMap_cons]

/-- The lines that are read are the ones that were written. -/
theorem linesOf?_flatMap_line {ops : List Operator} (hops : ∀ op ∈ ops, op.IsScanned)
    (style : Style) : linesOf? (ops.flatMap style.line) = some (ops.map style.render) := by
  have hlines : ∀ line ∈ ops.map style.render, '\n' ∉ line := by
    intro line hline
    obtain ⟨op, hop, rfl⟩ := List.mem_map.mp hline
    exact lineFeed_not_mem_render (hops op hop) style
  unfold linesOf?
  rw [flatMap_line, Utf8.decode_encode, Option.bind_some, splitOn_lines hlines]
  simp

theorem pairs?_flatMap_line {ops : List Operator} (hops : ∀ op ∈ ops, op.IsScanned) :
    pairs? (ops.flatMap Style.pair.line) = some ops := by
  unfold pairs?
  rw [linesOf?_flatMap_line hops, Option.bind_some]
  induction ops with
  | nil => rfl
  | cons op rest ih =>
      have hrest := ih fun other hother => hops other (List.mem_cons_of_mem op hother)
      rw [List.map_cons, List.mapM_cons, pair?_render (hops op List.mem_cons_self), hrest]
      rfl

/-! ## Writing without limits -/

theorem Writer.write_unlimited (taken : Bytes) (flushes : Nat) (b : Bytes) :
    ({ taken, flushes } : Writer).write b = (.ok (), { taken := taken ++ b, flushes }) :=
  rfl

theorem Writer.flush_unlimited (taken : Bytes) (flushes : Nat) :
    ({ taken, flushes } : Writer).flush = (.ok (), { taken, flushes := flushes + 1 }) :=
  rfl

/-- A writer without limits takes the line of every operator; only a problem among the items can end
the writing early. -/
theorem emitFrom_unlimited (style : Style) (taken : Bytes) (flushes count : Nat)
    (ops : List Operator) (problem : Option ScanProblem) :
    emitFrom style { taken, flushes } count (ops.map .ok ++ problem.toList.map .error) =
      { result := match problem with
          | none => .ok (count + ops.length)
          | some p => .error (.scanning p)
        writer := { taken := taken ++ ops.flatMap style.line, flushes := flushes + ops.length }
        pulled := count + ops.length + problem.toList.length } := by
  induction ops generalizing taken flushes count with
  | nil =>
      cases problem with
      | none => simp [emitFrom]
      | some p => simp [emitFrom]
  | cons op rest ih =>
      rw [List.map_cons, List.cons_append, emitFrom, Writer.write_unlimited]
      dsimp only
      rw [Writer.flush_unlimited]
      dsimp only
      rw [ih]
      have hcount : count + 1 + rest.length = count + (rest.length + 1) := by omega
      have hflushes : flushes + 1 + rest.length = flushes + (rest.length + 1) := by omega
      simp only [List.flatMap_cons, List.append_assoc, List.length_cons, hcount, hflushes]

/-! ## Scans -/

/-- What a scan delivers are operators with token characters and then, perhaps, a problem. -/
theorem exists_operators (pieces : List Document.Piece) (skip : Nat) :
    ∃ (ops : List Operator) (problem : Option ScanProblem),
      (Scan.ofPieces pieces skip).drain.1 = ops.map .ok ++ problem.toList.map .error ∧
      ∀ op ∈ ops, op.IsScanned := by
  rw [Scan.drain_ofPieces]
  exact ⟨_, _, rfl, fun op hop => Scan.isScanned_of_mem_operatorsOf hop⟩

theorem filterMap_toOption (ops : List Operator) (problem : Option ScanProblem) :
    (ops.map .ok ++ problem.toList.map .error : List Item).filterMap Except.toOption = ops := by
  rw [List.filterMap_append]
  have hops : (ops.map (.ok : Operator → Item)).filterMap Except.toOption = ops := by
    rw [List.filterMap_map]
    exact List.filterMap_some
  have hproblem :
      (problem.toList.map (.error : ScanProblem → Item)).filterMap Except.toOption = [] := by
    cases problem with
    | none => rfl
    | some p => rfl
  rw [hops, hproblem, List.append_nil]

/-- **Output can be read back.**  A writer without limits gets one line for every operator of a scan:
a string literal and a comma, or a pair with a single mark.  The pairs read back are the operators,
and the entries for them are the octets of the other style; a problem ends both styles after the same
line. -/
theorem output_readable (pieces : List Document.Piece) (skip : Nat) :
    let items := (Scan.ofPieces pieces skip).drain.1
    let ops := items.filterMap Except.toOption
    let entries := emit .listEntry {} items
    let pairs := emit .pair {} items
    linesOf? entries.writer.taken = some (ops.map fun op => '"' :: op.name ++ ['"', ',']) ∧
    linesOf? pairs.writer.taken = some (ops.map fun op => op.token ++ pairMark ++ op.name) ∧
    (∀ op ∈ ops, op.name = nameOfToken op.token ∧
      (∀ c ∈ op.name, IsInert c ∧ c ≠ '.' ∧ c ≠ '_') ∧
      ∀ before after, op.token ++ pairMark ++ op.name = before ++ pairMark ++ after ↔
        before = op.token ∧ after = op.name) ∧
    pairs? pairs.writer.taken = some ops ∧
    (pairs? pairs.writer.taken).map (·.flatMap Style.listEntry.line) =
      some entries.writer.taken ∧
    pairs.result = entries.result ∧ pairs.pulled = entries.pulled ∧
    ∀ problem, .error problem ∈ items → entries.result = .error (.scanning problem) := by
  obtain ⟨ops, problem, hitems, hops⟩ := exists_operators pieces skip
  have hemit : ∀ style : Style, emit style {} (ops.map .ok ++ problem.toList.map .error) = _ :=
    fun style => emitFrom_unlimited style [] 0 0 ops problem
  have hpairs : pairs? (ops.flatMap Style.pair.line) = some ops := pairs?_flatMap_line hops
  dsimp only
  rw [hitems, filterMap_toOption, hemit, hemit]
  dsimp only
  rw [List.nil_append, List.nil_append, hpairs]
  refine ⟨linesOf?_flatMap_line hops .listEntry, linesOf?_flatMap_line hops .pair, ?_, rfl, rfl, rfl,
    rfl, ?_⟩
  · intro op hop
    refine ⟨(hops op hop).1, ?_, ?_⟩
    · intro c hc
      have hchar := isNameChar_of_mem_name (hops op hop) hc
      have hseparator := hchar.2
      simp only [isSeparator, Bool.or_eq_false_iff, decide_eq_false_iff_not] at hseparator
      exact ⟨hchar.isInert, hseparator⟩
    · intro before after
      exact append_mark_eq_iff (blank_not_mem_token (hops op hop)) (blank_not_mem_name (hops op hop))
  · intro p hp
    cases problem with
    | none => simp at hp
    | some q =>
        have hsame : p = q := by simpa using hp
        rw [hsame]

/-- A line that is skipped, one with a letter that is two in upper case, and one that is not
UTF-8. -/
def samplePieces : List Document.Piece :=
  [.octets (Utf8.encode "`x`\n`\u00dfa._b` and `c`\n".toList), .octets [0xFF, 0x0A]]

/-- The operator of the second line. -/
def sampleOperator : Operator :=
  { token := "\u00dfa._b".toList, name := "SSaB".toList }

set_option maxRecDepth 4000 in
theorem output_readable_sample :
    let items := (Scan.ofPieces samplePieces 1).drain.1
    sampleOperator ∈ items.filterMap Except.toOption ∧ 'S' ∈ sampleOperator.name ∧
    .error (.unread 3 .notUtf8) ∈ items ∧
    (IsInert 'S' ∧ 'S' ≠ '.' ∧ 'S' ≠ '_') ∧
    (∀ before after, "\u00dfa._b -- SSaB".toList = before ++ pairMark ++ after ↔
      before = "\u00dfa._b".toList ∧ after = "SSaB".toList) ∧
    pairs? (emit .pair {} items).writer.taken = some [sampleOperator] ∧
    (emit .listEntry {} items).result = .error (.scanning (.unread 3 .notUtf8)) := by
  obtain ⟨-, -, hops, hpairs, -, -, -, hproblem⟩ := output_readable samplePieces 1
  have hitems : (Scan.ofPieces samplePieces 1).drain.1 =
      [.ok sampleOperator, .error (.unread 3 .notUtf8)] := by rfl
  have hop : sampleOperator ∈ (Scan.ofPieces samplePieces 1).drain.1.filterMap Except.toOption := by
    rw [hitems]
    exact List.mem_cons_self
  have hchar : 'S' ∈ sampleOperator.name := by decide
  have hfails : .error (.unread 3 .notUtf8) ∈ (Scan.ofPieces samplePieces 1).drain.1 := by
    rw [hitems]
    exact List.mem_cons_of_mem _ List.mem_cons_self
  obtain ⟨-, hchars, hmark⟩ := hops sampleOperator hop
  exact ⟨hop, hchar, hfails, hchars 'S' hchar, hmark, hpairs, hproblem _ hfails⟩

end OperatorNames
