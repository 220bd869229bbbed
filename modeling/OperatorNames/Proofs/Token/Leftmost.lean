import OperatorNames.Token

/-!
# The leftmost token

A token of a line stands between two backticks (`Quoted`), and the leftmost one has the least text
before it (`IsLeftmost`).  `first?` finds exactly that one, and nothing only where there is none
(`first?_leftmost`).  A backtick that closes no token may open one, so that what stands between two
backticks is passed over without the second of them.
-/

namespace OperatorNames.Token

open Text

/-- A token of a line, with what stands before and after the backticks around it. -/
structure Quoted (line before token after : Text) : Prop where
  /-- The line is put together so. -/
  line_eq : line = before ++ '`' :: token ++ '`' :: after
  /-- There is something to the token. -/
  ne_nil : token ≠ []
  /-- A token has word characters, points and underscores only. -/
  chars : ∀ c ∈ token, isWord c = true ∨ c = '.' ∨ c = '_'

/-- A token of a line before which no other one begins. -/
structure IsLeftmost (line before token after : Text) : Prop
    extends Quoted line before token after where
  /-- No token has less text before it. -/
  least : ∀ before' token' after', Quoted line before' token' after' →
    before.length ≤ before'.length

variable {line rest before token after : Text}

/-! ## Tokens right after a backtick -/

theorem isTokenChar_iff {c : Char} :
    isTokenChar c = true ↔ isWord c = true ∨ c = '.' ∨ c = '_' := by
  have hunderscore : isWord '_' = true := by decide
  unfold isTokenChar
  rw [Bool.or_eq_true, decide_eq_true_eq]
  constructor
  · rintro (hword | hpoint)
    · exact .inl hword
    · exact .inr (.inl hpoint)
  · rintro (hword | hpoint | rfl)
    · exact .inl hword
    · exact .inr hpoint
    · exact .inl hunderscore

theorem closed?_eq_some_iff : closed? rest = some token ↔
    ∃ after, rest = token ++ '`' :: after ∧ token ≠ [] ∧ ∀ c ∈ token, isTokenChar c = true := by
  unfold closed?
  dsimp only
  constructor
  · intro hclosed
    split at hclosed
    · cases hclosed
    · next hrun =>
        split at hclosed
        · next after hafter =>
            cases hclosed
            refine ⟨after, ?_, by simpa using hrun, List.all_eq_true.mp List.all_takeWhile⟩
            rw [← hafter, List.takeWhile_append_dropWhile]
        · cases hclosed
  · rintro ⟨after, rfl, hne, hchars⟩
    -- the backtick is no token character, so that the run ends there
    have hrun : (token ++ '`' :: after).takeWhile isTokenChar = token := by
      rw [List.takeWhile_append_of_pos hchars, List.takeWhile_cons_of_neg (by decide),
        List.append_nil]
    have hrest : (token ++ '`' :: after).dropWhile isTokenChar = '`' :: after := by
      rw [List.dropWhile_append_of_pos hchars, List.dropWhile_cons_of_neg (by decide)]
    rw [hrun, hrest, if_neg (by simpa using hne)]
    rfl

theorem Quoted.closed? (hquoted : Quoted line before token after) :
    Token.closed? (token ++ '`' :: after) = some token :=
  closed?_eq_some_iff.mpr
    ⟨after, rfl, hquoted.ne_nil, fun c hc => isTokenChar_iff.mpr (hquoted.chars c hc)⟩

/-- A token that begins at a backtick is what is found there. -/
theorem quoted_nil_iff {c : Char} : (∃ after, Quoted (c :: rest) [] token after) ↔
    c = '`' ∧ closed? rest = some token := by
  constructor
  · rintro ⟨after, hquoted⟩
    obtain ⟨rfl, rfl⟩ := List.cons.inj hquoted.line_eq
    exact ⟨rfl, hquoted.closed?⟩
  · rintro ⟨rfl, hclosed⟩
    obtain ⟨after, rfl, hne, hchars⟩ := closed?_eq_some_iff.mp hclosed
    exact ⟨after, rfl, hne, fun c hc => isTokenChar_iff.mp (hchars c hc)⟩

/-- A token that begins later is one of the rest. -/
theorem quoted_cons_iff {c d : Char} :
    Quoted (c :: rest) (d :: before) token after ↔ c = d ∧ Quoted rest before token after := by
  constructor
  · intro hquoted
    obtain ⟨rfl, hrest⟩ := List.cons.inj hquoted.line_eq
    exact ⟨rfl, hrest, hquoted.ne_nil, hquoted.chars⟩
  · rintro ⟨rfl, hquoted⟩
    exact ⟨congrArg (c :: ·) hquoted.line_eq, hquoted.ne_nil, hquoted.chars⟩

/-- Where a token begins settles which one it is. -/
theorem Quoted.unique {token' after' : Text} (hquoted : Quoted line before token after)
    (hquoted' : Quoted line before token' after') : token = token' ∧ after = after' := by
  have hsame := hquoted.line_eq.symm.trans hquoted'.line_eq
  rw [List.append_assoc, List.append_assoc] at hsame
  obtain ⟨-, hrest⟩ := List.cons.inj (List.append_cancel_left hsame)
  have hclosed := hquoted.closed?
  rw [show token ++ '`' :: after = token' ++ '`' :: after' from hrest, hquoted'.closed?,
    Option.some.injEq] at hclosed
  subst hclosed
  exact ⟨rfl, (List.cons.inj (List.append_cancel_left hrest)).2⟩

/-! ## What is found -/

/-- Either a token begins with the first character, or what is found is found in the rest. -/
theorem first?_cons (c : Char) (rest : Text) :
    (∃ token, first? (c :: rest) = some token ∧ ∃ after, Quoted (c :: rest) [] token after) ∨
    (first? (c :: rest) = first? rest ∧ ∀ token after, ¬ Quoted (c :: rest) [] token after) := by
  rw [first?]
  split
  · next hc =>
      cases hclosed : closed? rest with
      | some token => exact .inl ⟨token, rfl, quoted_nil_iff.mpr ⟨hc, hclosed⟩⟩
      | none =>
          refine .inr ⟨rfl, fun token after hquoted => ?_⟩
          obtain ⟨-, hsome⟩ := quoted_nil_iff.mp ⟨after, hquoted⟩
          rw [hclosed] at hsome
          cases hsome
  · next hc =>
      refine .inr ⟨rfl, fun token after hquoted => ?_⟩
      exact hc (quoted_nil_iff.mp ⟨after, hquoted⟩).1

theorem not_quoted_nil : ¬ Quoted [] before token after := by
  intro hquoted
  have hline := hquoted.line_eq
  simp at hline

theorem not_quoted_of_none (hnone : first? line = none) (before token after : Text) :
    ¬ Quoted line before token after := by
  induction line generalizing before with
  | nil => exact not_quoted_nil
  | cons c rest ih =>
      obtain ⟨found, hfound, -⟩ | ⟨hrest, hhere⟩ := first?_cons c rest
      · rw [hfound] at hnone
        cases hnone
      · cases before with
        | nil => exact hhere token after
        | cons d before =>
            intro hquoted
            exact ih (hrest ▸ hnone) before (quoted_cons_iff.mp hquoted).2

theorem exists_leftmost (hsome : first? line = some token) :
    ∃ before after, IsLeftmost line before token after := by
  induction line with
  | nil => cases hsome
  | cons c rest ih =>
      obtain ⟨found, hfound, after, hquoted⟩ | ⟨hrest, hhere⟩ := first?_cons c rest
      · rw [hfound, Option.some.injEq] at hsome
        subst hsome
        exact ⟨[], after, hquoted, fun _ _ _ _ => Nat.zero_le _⟩
      · obtain ⟨before, after, hleftmost⟩ := ih (hrest ▸ hsome)
        refine ⟨c :: before, after, quoted_cons_iff.mpr ⟨rfl, hleftmost.toQuoted⟩, ?_⟩
        intro before' token' after' hquoted
        cases before' with
        | nil => exact absurd hquoted (hhere token' after')
        | cons d before' =>
            have hleast := hleftmost.least _ _ _ (quoted_cons_iff.mp hquoted).2
            exact Nat.succ_le_succ hleast

/-- There is one leftmost token at most. -/
theorem IsLeftmost.unique {before' token' after' : Text}
    (hleftmost : IsLeftmost line before token after)
    (hleftmost' : IsLeftmost line before' token' after') :
    before = before' ∧ token = token' ∧ after = after' := by
  have hlength : before.length = before'.length :=
    Nat.le_antisymm (hleftmost.least _ _ _ hleftmost'.toQuoted)
      (hleftmost'.least _ _ _ hleftmost.toQuoted)
  have hsame := hleftmost.line_eq.symm.trans hleftmost'.line_eq
  rw [List.append_assoc, List.append_assoc] at hsame
  obtain ⟨rfl, -⟩ := List.append_inj hsame hlength
  exact ⟨rfl, hleftmost.toQuoted.unique hleftmost'.toQuoted⟩

theorem first?_eq_some_iff :
    first? line = some token ↔ ∃ before after, IsLeftmost line before token after := by
  constructor
  · exact exists_leftmost
  · rintro ⟨before, after, hleftmost⟩
    cases hfirst : first? line with
    | none => exact absurd hleftmost.toQuoted (not_quoted_of_none hfirst before token after)
    | some found =>
        obtain ⟨before', after', hfound⟩ := exists_leftmost hfirst
        rw [(hleftmost.unique hfound).2.1]

theorem first?_eq_none_iff :
    first? line = none ↔ ∀ before token after, ¬ Quoted line before token after := by
  constructor
  · exact not_quoted_of_none
  · intro hno
    cases hfirst : first? line with
    | none => rfl
    | some token =>
        obtain ⟨before, after, hleftmost⟩ := exists_leftmost hfirst
        exact absurd hleftmost.toQuoted (hno before token after)

/-! ## What is passed over -/

variable {passed : Text}

theorem first?_append_of_not_mem (hpassed : '`' ∉ passed) (rest : Text) :
    first? (passed ++ rest) = first? rest := by
  induction passed with
  | nil => rfl
  | cons c passed ih =>
      obtain ⟨hc, hmore⟩ := not_or.mp (mt List.mem_cons.mpr hpassed)
      rw [List.cons_append, first?, if_neg (Ne.symm hc)]
      exact ih hmore

/-- Text without a backtick ends where the first one is. -/
theorem takeWhile_to_backtick (hpassed : '`' ∉ passed) (rest : Text) :
    (passed ++ '`' :: rest).takeWhile (· ≠ '`') = passed := by
  have hother : ∀ c ∈ passed, decide (c ≠ '`') = true := by
    intro c hc
    rw [decide_eq_true_eq]
    rintro rfl
    exact hpassed hc
  rw [List.takeWhile_append_of_pos hother, List.takeWhile_cons_of_neg (by decide), List.append_nil]

/-- The second backtick of a pair that holds no token counts as the first of what follows. -/
theorem first?_failed_pair (hpassed : '`' ∉ passed)
    (hfailed : passed = [] ∨ ∃ c ∈ passed, isTokenChar c = false) (rest : Text) :
    first? ('`' :: passed ++ '`' :: rest) = first? ('`' :: rest) := by
  have hclosed : closed? (passed ++ '`' :: rest) = none := by
    cases hfound : closed? (passed ++ '`' :: rest) with
    | none => rfl
    | some token =>
        obtain ⟨after, hsplit, hne, hchars⟩ := closed?_eq_some_iff.mp hfound
        have htoken : '`' ∉ token := fun hmem => absurd (hchars _ hmem) (by decide)
        obtain rfl : passed = token := by
          rw [← takeWhile_to_backtick hpassed rest, hsplit, takeWhile_to_backtick htoken]
        obtain hempty | ⟨c, hc, hother⟩ := hfailed
        · exact absurd hempty hne
        · rw [hchars c hc] at hother
          cases hother
  rw [List.cons_append, first?, if_pos rfl, hclosed]
  exact first?_append_of_not_mem hpassed _

theorem closed?_append_of_not_mem (hpassed : '`' ∉ passed) (rest : Text) :
    closed? (rest ++ passed) = closed? rest := by
  have hiff : ∀ token, closed? (rest ++ passed) = some token ↔ closed? rest = some token := by
    intro token
    rw [closed?_eq_some_iff, closed?_eq_some_iff]
    constructor
    · rintro ⟨after, hsplit, htoken⟩
      rcases List.append_eq_append_iff.mp hsplit with ⟨more, -, hpast⟩ | ⟨more, hrest, hafter⟩
      · exact absurd (hpast ▸ List.mem_append_right _ List.mem_cons_self) hpassed
      · cases more with
        | nil =>
            rw [← List.nil_append passed, ← hafter] at hpassed
            exact absurd List.mem_cons_self hpassed
        | cons c more =>
            obtain ⟨rfl, -⟩ := List.cons.inj hafter
            exact ⟨more, hrest, htoken⟩
    · rintro ⟨after, rfl, htoken⟩
      exact ⟨after ++ passed, List.append_assoc _ _ _, htoken⟩
  exact Option.ext hiff

/-- What comes after the last backtick does not count, whether that has been opened or closed. -/
theorem first?_append_unterminated (hpassed : '`' ∉ passed) (rest : Text) :
    first? (rest ++ passed) = first? rest := by
  induction rest with
  | nil =>
      have hnone := first?_append_of_not_mem hpassed []
      rwa [List.append_nil] at hnone
  | cons c rest ih =>
      rw [List.cons_append, first?, first?, closed?_append_of_not_mem hpassed, ih]

/-- **The leftmost token.**  What is found on a line is the token between backticks before which no
other one begins, and it is found wherever there is a token at all; there is one such token at most.
Two backticks with nothing between them, or with a character that no token has, are passed over, but
the second of them may open a token; what comes after the last backtick does not count. -/
theorem first?_leftmost (line : Text) :
    (∀ token, first? line = some token ↔ ∃ before after, IsLeftmost line before token after) ∧
    (first? line = none ↔ ∀ before token after, ¬ Quoted line before token after) ∧
    (∀ before token after before' token' after', IsLeftmost line before token after →
      IsLeftmost line before' token' after' →
      before = before' ∧ token = token' ∧ after = after') ∧
    (∀ passed rest, line = '`' :: passed ++ '`' :: rest → '`' ∉ passed →
      (passed = [] ∨ ∃ c ∈ passed, isTokenChar c = false) → first? line = first? ('`' :: rest)) ∧
    ∀ rest passed, line = rest ++ passed → '`' ∉ passed → first? line = first? rest := by
  refine ⟨fun token => first?_eq_some_iff, first?_eq_none_iff, ?_, ?_, ?_⟩
  · intro before token after before' token' after' hleftmost hleftmost'
    exact hleftmost.unique hleftmost'
  · rintro passed rest rfl hpassed hfailed
    exact first?_failed_pair hpassed hfailed rest
  · rintro rest passed rfl hpassed
    exact first?_append_unterminated hpassed rest

/-- A pair with a blank, whose second backtick opens a token, and a backtick that opens nothing. -/
def sampleLine : Text :=
  "`a b`c_d` `e".toList

theorem first?_leftmost_sample :
    first? sampleLine = some "c_d".toList ∧
    (∃ before after, IsLeftmost sampleLine before "c_d".toList after ∧
      ∀ before' token' after', IsLeftmost sampleLine before' token' after' →
        before = before' ∧ "c_d".toList = token' ∧ after = after') ∧
    (' ' ∈ "a b".toList ∧ isTokenChar ' ' = false ∧
      first? sampleLine = first? "`c_d` `e".toList) ∧
    '`' ∉ "e".toList ∧ first? sampleLine = first? "`a b`c_d` `".toList := by
  obtain ⟨hsome, -, hunique, hfailed, hunterminated⟩ := first?_leftmost sampleLine
  have hfirst : first? sampleLine = some "c_d".toList := by decide
  obtain ⟨before, after, hleftmost⟩ := (hsome _).mp hfirst
  have hblank : ' ' ∈ "a b".toList ∧ isTokenChar ' ' = false := by decide
  have hnone : '`' ∉ "e".toList := by decide
  refine ⟨hfirst, ⟨before, after, hleftmost, ?_⟩, ⟨hblank.1, hblank.2, ?_⟩, hnone, ?_⟩
  · intro before' token' after' hleftmost'
    exact hunique _ _ _ _ _ _ hleftmost hleftmost'
  · exact hfailed "a b".toList "c_d` `e".toList rfl (by decide) (.inr ⟨' ', hblank⟩)
  · exact hunterminated "`a b`c_d` `".toList "e".toList rfl hnone

end OperatorNames.Token
