import OperatorNames.Toml.Quoted

/-!
# Strings read back

Whatever a text holds, the string that it is written as is read as that text (`read?_write`).
-/

namespace OperatorNames.Toml

open Text

theorem lineEnd?_cons {c : Char} (hline : c ≠ '\n') (hreturn : c ≠ '\r') (rest : Text) :
    lineEnd? (c :: rest) = none := by
  unfold lineEnd?
  split
  · next heq =>
      cases heq
      exact absurd rfl hline
  · next heq =>
      cases heq
      exact absurd rfl hreturn
  · rfl

namespace Quoted

/-! ## Escapes -/

/-- The three ways in which a character other than a quote and a line feed is escaped. -/
inductive Escaped (c : Char) : Text → Prop
  /-- A letter stands for it. -/
  | letter {x : Char} (hx : escaped? x = some c) : Escaped c ['\\', x]
  /-- Its number is written. -/
  | number {p q r s : Char} (hcode : codePoint? [p, q, r, s] = some c) :
      Escaped c ['\\', 'u', p, q, r, s]
  /-- It stands for itself. -/
  | plain (hplain : isPlain c = true) (hback : c ≠ '\\') : Escaped c [c]

/-- A letter of an escape is not one that escapes nothing. -/
theorem ne_of_escaped? {x c d : Char} (hx : escaped? x = some c) (hd : escaped? d = none) :
    x ≠ d := by
  rintro rfl
  rw [hx] at hd
  cases hd

theorem ne_return_of_isPlain {c : Char} (hplain : isPlain c = true) : c ≠ '\r' := by
  rintro rfl
  cases hplain

/-- The written form of a character does not end a string and does not start a line. -/
theorem Escaped.exists_cons {c : Char} {e : Text} (he : Escaped c e) (hquote : c ≠ '"')
    (hline : c ≠ '\n') : ∃ x more, e = x :: more ∧ x ≠ '"' ∧ x ≠ '\n' ∧ x ≠ '\r' := by
  cases he with
  | letter hx => exact ⟨'\\', _, rfl, by decide, by decide, by decide⟩
  | number hcode => exact ⟨'\\', _, rfl, by decide, by decide, by decide⟩
  | plain hplain hback => exact ⟨c, [], rfl, hquote, hline, ne_return_of_isPlain hplain⟩

theorem codePoint?_numbered : ∀ n < 0x80,
    codePoint? [upperHexDigit (n / 4096 % 16), upperHexDigit (n / 256 % 16),
      upperHexDigit (n / 16 % 16), upperHexDigit (n % 16)] = some (Char.ofNat n) := by
  decide +kernel

theorem escaped_escape (c : Char) : Escaped c (escape c) := by
  unfold escape
  split
  · next hc =>
      subst hc
      exact .letter rfl
  split
  · next hc =>
      subst hc
      exact .letter rfl
  split
  · next hc =>
      subst hc
      exact .letter rfl
  split
  · next hc =>
      subst hc
      exact .letter rfl
  split
  · next hc =>
      subst hc
      exact .letter rfl
  split
  · next hcontrol =>
      have hlow : c.toNat < 0x80 := by
        simp only [Bool.or_eq_true, decide_eq_true_eq] at hcontrol
        omega
      refine .number ?_
      rw [codePoint?_numbered _ hlow, Char.ofNat_toNat]
  · next hback _ _ _ _ hcontrol =>
      refine .plain ?_ hback
      simp only [Bool.or_eq_true, decide_eq_true_eq, not_or] at hcontrol
      simp only [isPlain, Bool.or_eq_true, Bool.and_eq_true, decide_eq_true_eq]
      omega

/-! ## Strings between double quotes -/

theorem readBasic_letter {x c : Char} (hx : escaped? x = some c) (done rest : Text) :
    readBasic done ('\\' :: x :: rest) = readBasic (c :: done) rest := by
  rw [readBasic, hx, Option.bind_some]
  · intro _ _ _ _ _ heq
    exact absurd heq (ne_of_escaped? hx rfl)
  · intro _ _ _ _ _ _ _ _ _ heq
    exact absurd heq (ne_of_escaped? hx rfl)

theorem readBasic_number {p q r s c : Char} (hcode : codePoint? [p, q, r, s] = some c)
    (done rest : Text) :
    readBasic done ('\\' :: 'u' :: p :: q :: r :: s :: rest) = readBasic (c :: done) rest := by
  rw [readBasic, hcode, Option.bind_some]

theorem readBasic_plain {c : Char} (hplain : isPlain c = true) (hback : c ≠ '\\')
    (hquote : c ≠ '"') (done rest : Text) :
    readBasic done (c :: rest) = readBasic (c :: done) rest := by
  rw [readBasic.eq_def]
  split <;> simp_all

theorem readBasic_escaped {c : Char} {e : Text} (he : Escaped c e) (hquote : c ≠ '"')
    (done rest : Text) : readBasic done (e ++ rest) = readBasic (c :: done) rest := by
  cases he with
  | letter hx => exact readBasic_letter hx done rest
  | number hcode => exact readBasic_number hcode done rest
  | plain hplain hback => exact readBasic_plain hplain hback hquote done rest

theorem readBasic_escapeBasic (t done rest : Text) :
    readBasic done (escapeBasic t ++ '"' :: rest) = some (done.reverse ++ t, rest) := by
  induction t generalizing done with
  | nil => simp [escapeBasic, readBasic]
  | cons c t ih =>
      have hstep : readBasic done (escapeBasic (c :: t) ++ '"' :: rest) =
          readBasic (c :: done) (escapeBasic t ++ '"' :: rest) := by
        rw [escapeBasic, List.flatMap_cons, List.append_assoc, ← escapeBasic]
        split
        · next hquote =>
            subst hquote
            exact readBasic_letter rfl _ _
        · next hquote =>
            split
            · next hline =>
                subst hline
                exact readBasic_letter rfl _ _
            · exact readBasic_escaped (escaped_escape c) hquote _ _
      rw [hstep, ih, List.reverse_cons, ← List.append_cons]

/-! ## Strings between apostrophes -/

theorem readLiteral_plain {t : Text} (hplain : ∀ c ∈ t, isPlain c = true) (hmark : '\x27' ∉ t)
    (done rest : Text) :
    readLiteral done (t ++ '\x27' :: rest) = some (done.reverse ++ t, rest) := by
  induction t generalizing done with
  | nil => simp [readLiteral]
  | cons c t ih =>
      rw [List.mem_cons, not_or] at hmark
      have hc := hplain c List.mem_cons_self
      rw [List.cons_append, readLiteral, if_pos hc,
        ih (fun d hd => hplain d (List.mem_cons_of_mem c hd)) hmark.2]
      · simp
      · intro heq
        exact hmark.1 heq.symm

/-! ## Runs of marks -/

/-- How the marks at the front of `u`, the written form of `t`, end: with the text or before another
character.  There are no more than there is room for. -/
inductive Front (mark : Char) (room : Nat) (t u : Text) : Prop
  | whole {q : Nat} (hq : q ≤ room) (ht : t = List.replicate q mark)
      (hu : u = List.replicate q mark)
  | part {q : Nat} {c : Char} {more : Text} (hq : q ≤ room) (hc : c ≠ mark)
      (hu : u = List.replicate q mark ++ c :: more)

theorem Front.cons {mark : Char} {room : Nat} {t u : Text} (hfront : Front mark room t u) :
    Front mark (room + 1) (mark :: t) (mark :: u) := by
  cases hfront with
  | whole hq ht hu =>
      subst ht
      subst hu
      exact .whole (Nat.succ_le_succ hq) rfl rfl
  | part hq hc hu =>
      subst hu
      exact .part (Nat.succ_le_succ hq) hc rfl

theorem takeWhile_run {mark c : Char} (hc : c ≠ mark) (q : Nat) (more : Text) :
    (List.replicate q mark ++ c :: more).takeWhile (· = mark) = List.replicate q mark := by
  rw [List.takeWhile_append_of_pos, List.takeWhile_cons_of_neg, List.append_nil]
  · simpa using hc
  · intro d hd
    simpa using (List.mem_replicate.mp hd).2

theorem closing?_of_whole (mark : Char) {c : Char} (hc : c ≠ mark) {q : Nat} (hq : q ≤ 2)
    (rest : Text) :
    closing? mark (List.replicate q mark ++ List.replicate 3 mark ++ c :: rest) =
      some (q, c :: rest) := by
  rw [List.replicate_append_replicate, closing?, takeWhile_run hc, List.length_replicate,
    if_neg (by omega), Nat.min_eq_left (by omega), Nat.min_eq_left (by omega),
    List.drop_left' (List.length_replicate)]
  rfl

theorem closing?_of_part (mark : Char) {c : Char} (hc : c ≠ mark) {q : Nat} (hq : q ≤ 2)
    (more : Text) :
    closing? mark (List.replicate q mark ++ c :: more) = none := by
  rw [closing?, takeWhile_run hc, List.length_replicate]
  exact if_pos (by omega)

/-- The search for the longest run, from a run and the longest one before. -/
def runs (mark : Char) (state : Nat × Nat) (t : Text) : Nat × Nat :=
  t.foldl (fun (run, best) c => if c = mark then (run + 1, max best (run + 1)) else (0, best)) state

theorem runs_cons (mark c : Char) (run best : Nat) (t : Text) :
    runs mark (run, best) (c :: t) =
      runs mark (if c = mark then (run + 1, max best (run + 1)) else (0, best)) t :=
  rfl

theorem best_le_runs (mark : Char) (t : Text) (run best : Nat) :
    best ≤ (runs mark (run, best) t).2 := by
  induction t generalizing run best with
  | nil => exact Nat.le_refl best
  | cons c t ih =>
      rw [runs_cons]
      split
      · exact Nat.le_trans (Nat.le_max_left _ _) (ih _ _)
      · exact ih _ _

theorem not_mem_of_runs {mark : Char} {t : Text} {run best : Nat}
    (hruns : (runs mark (run, best) t).2 = 0) : mark ∉ t := by
  induction t generalizing run best with
  | nil => exact List.not_mem_nil
  | cons c t ih =>
      rw [runs_cons] at hruns
      split at hruns
      · -- a run has begun, so that the longest one is not empty
        have hbest := best_le_runs mark t (run + 1) (max best (run + 1))
        omega
      · next hc =>
          rw [List.mem_cons, not_or]
          exact ⟨fun heq => hc heq.symm, ih hruns⟩

theorem front_of_runs {mark : Char} {t : Text} {run best : Nat}
    (hruns : (runs mark (run, best) t).2 ≤ 2) : Front mark (2 - run) t t := by
  induction t generalizing run best with
  | nil => exact .whole (Nat.zero_le _) rfl rfl
  | cons c t ih =>
      by_cases hc : c = mark
      · subst hc
        rw [runs_cons, if_pos rfl] at hruns
        have hbest := Nat.le_trans (best_le_runs c t _ _) hruns
        have hrun : 2 - run = 2 - (run + 1) + 1 := by omega
        rw [hrun]
        exact (ih hruns).cons
      · exact .part (Nat.zero_le _) hc rfl

/-! ## Strings between tripled apostrophes -/

theorem readLongLiteral_whole {q : Nat} (hq : q ≤ 2) (done rest : Text) :
    readLongLiteral done
        (List.replicate q '\x27' ++ List.replicate 3 '\x27' ++ '\n' :: rest) =
      some (done.reverse ++ List.replicate q '\x27', '\n' :: rest) := by
  have hclosing := closing?_of_whole '\x27' (c := '\n') (by decide) hq rest
  rw [List.replicate_append_replicate, List.replicate_succ, List.cons_append] at hclosing ⊢
  rw [readLongLiteral, hclosing]
  simp

theorem isPlain_of_needsEscape {c : Char} (hescape : needsEscape c = false) (hline : c ≠ '\n') :
    isPlain c = true := by
  simp only [needsEscape, Bool.or_eq_false_iff, Bool.and_eq_false_iff, decide_eq_false_iff_not,
    ne_eq, Decidable.not_not] at hescape
  simp only [isPlain, Bool.or_eq_true, Bool.and_eq_true, decide_eq_true_eq]
  rcases hescape.1 with (hlow | htab) | heq
  · omega
  · exact .inl htab
  · exact absurd heq hline

theorem readLongLiteral_cons {c : Char} (hmark : c ≠ '\x27') (hescape : needsEscape c = false)
    (done rest : Text) : readLongLiteral done (c :: rest) = readLongLiteral (c :: done) rest := by
  by_cases hline : c = '\n'
  · subst hline
    rw [readLongLiteral]
  · have hplain := isPlain_of_needsEscape hescape hline
    rw [readLongLiteral, if_pos hplain]
    · exact hmark
    · intro more hreturn
      subst hreturn
      cases hescape
    · exact hline

theorem readLongLiteral_self {t : Text} {run best : Nat}
    (hescape : ∀ c ∈ t, needsEscape c = false) (hruns : (runs '\x27' (run, best) t).2 ≤ 2)
    (done rest : Text) :
    readLongLiteral done (t ++ List.replicate 3 '\x27' ++ '\n' :: rest) =
      some (done.reverse ++ t, '\n' :: rest) := by
  induction t generalizing run best done with
  | nil => simpa using readLongLiteral_whole (q := 0) (by decide) done rest
  | cons c t ih =>
      have hlater : ∀ d ∈ t, needsEscape d = false :=
        fun d hd => hescape d (List.mem_cons_of_mem c hd)
      have hfront := front_of_runs hruns
      rw [runs_cons] at hruns
      by_cases hc : c = '\x27'
      · subst hc
        rw [if_pos rfl] at hruns
        cases hfront with
        | whole hq ht hu =>
            rw [ht]
            exact readLongLiteral_whole (by omega) done rest
        | part hq hother hu =>
            -- the marks here are too few to close the string
            have hnone : closing? '\x27'
                ('\x27' :: t ++ List.replicate 3 '\x27' ++ '\n' :: rest) = none := by
              rw [hu, List.append_assoc, List.append_assoc, List.cons_append]
              exact closing?_of_part '\x27' hother (by omega) _
            rw [List.cons_append, List.cons_append] at hnone ⊢
            rw [readLongLiteral, hnone]
            dsimp only
            rw [ih hlater hruns, List.reverse_cons, ← List.append_cons]
      · rw [if_neg hc] at hruns
        rw [List.cons_append, List.cons_append,
          readLongLiteral_cons hc (hescape c List.mem_cons_self), ih hlater hruns,
          List.reverse_cons, ← List.append_cons]

/-! ## Strings between tripled double quotes -/

theorem readLongBasic_whole {q : Nat} (hq : q ≤ 2) (done rest : Text) :
    readLongBasic done false (List.replicate q '"' ++ List.replicate 3 '"' ++ '\n' :: rest) =
      some (done.reverse ++ List.replicate q '"', '\n' :: rest) := by
  have hclosing := closing?_of_whole '"' (c := '\n') (by decide) hq rest
  rw [List.replicate_append_replicate, List.replicate_succ, List.cons_append] at hclosing ⊢
  rw [readLongBasic, hclosing]
  simp

theorem readLongBasic_letter {x c : Char} (hx : escaped? x = some c) (done rest : Text) :
    readLongBasic done false ('\\' :: x :: rest) = readLongBasic (c :: done) false rest := by
  have hspace : isSpace x = false := by
    simp only [isSpace, Bool.or_eq_false_iff, decide_eq_false_iff_not]
    exact ⟨ne_of_escaped? hx rfl, ne_of_escaped? hx rfl⟩
  have hend : lineEnd? (afterSpaces (x :: rest)) = none := by
    rw [afterSpaces, List.dropWhile_cons_of_neg (by simp [hspace])]
    exact lineEnd?_cons (ne_of_escaped? hx rfl) (ne_of_escaped? hx rfl) rest
  rw [readLongBasic, hend, hx]
  · rfl
  · intro _ _ _ _ _ heq
    exact absurd heq (ne_of_escaped? hx rfl)
  · intro _ _ _ _ _ _ _ _ _ heq
    exact absurd heq (ne_of_escaped? hx rfl)

theorem readLongBasic_escaped {c : Char} {e : Text} (he : Escaped c e) (hquote : c ≠ '"')
    (hline : c ≠ '\n') (done rest : Text) :
    readLongBasic done false (e ++ rest) = readLongBasic (c :: done) false rest := by
  cases he with
  | letter hx => exact readLongBasic_letter hx done rest
  | number hcode =>
      show readLongBasic done false ('\\' :: 'u' :: _ :: _ :: _ :: _ :: rest) = _
      rw [readLongBasic, hcode, Option.bind_some]
  | plain hplain hback =>
      show readLongBasic done false (c :: rest) = _
      rw [readLongBasic, if_neg (by simp), if_pos (by simp [hplain, hback])]
      · exact hquote
      · intro _ _ _ _ _ heq
        exact absurd heq hback
      · intro _ _ _ _ _ _ _ _ _ heq
        exact absurd heq hback
      · intro _ _ heq
        exact absurd heq hback
      · intro _ heq
        exact absurd heq (ne_return_of_isPlain hplain)
      · exact hline

theorem front_escapeLong (t : Text) {run : Nat} (hrun : run ≤ 2) :
    Front '"' (2 - run) t (escapeLong run t) := by
  induction t generalizing run with
  | nil => exact .whole (Nat.zero_le _) rfl rfl
  | cons c t ih =>
      rw [escapeLong]
      by_cases hc : c = '"'
      · subst hc
        rw [if_pos rfl]
        by_cases hfull : run = 2
        · rw [if_pos hfull]
          exact .part (q := 0) (Nat.zero_le _) (by decide) rfl
        · rw [if_neg hfull]
          have hroom : 2 - run = 2 - (run + 1) + 1 := by omega
          rw [hroom]
          exact (ih (by omega)).cons
      · rw [if_neg hc]
        by_cases hline : c = '\n'
        · rw [if_pos hline]
          exact .part (q := 0) (Nat.zero_le _) (by decide) rfl
        · rw [if_neg hline]
          obtain ⟨x, more, hx, hmark, -, -⟩ := (escaped_escape c).exists_cons hc hline
          rw [hx]
          exact .part (q := 0) (Nat.zero_le _) hmark rfl

theorem readLongBasic_escapeLong (t : Text) {run : Nat} (hrun : run ≤ 2) (done rest : Text) :
    readLongBasic done false (escapeLong run t ++ List.replicate 3 '"' ++ '\n' :: rest) =
      some (done.reverse ++ t, '\n' :: rest) := by
  induction t generalizing run done with
  | nil => simpa [escapeLong] using readLongBasic_whole (q := 0) (by decide) done rest
  | cons c t ih =>
      have hfront := front_escapeLong (c :: t) hrun
      rw [escapeLong] at hfront ⊢
      by_cases hc : c = '"'
      · subst hc
        rw [if_pos rfl] at hfront ⊢
        by_cases hfull : run = 2
        · rw [if_pos hfull]
          rw [List.cons_append, List.cons_append, List.cons_append, List.cons_append,
            readLongBasic_letter rfl, ih (Nat.zero_le 2), List.reverse_cons, ← List.append_cons]
        · rw [if_neg hfull] at hfront ⊢
          cases hfront with
          | whole hq ht hu =>
              rw [ht, hu]
              exact readLongBasic_whole (by omega) done rest
          | part hq hother hu =>
              -- the quotes here are too few to close the string
              have hnone : closing? '"' ('"' :: escapeLong (run + 1) t ++ List.replicate 3 '"' ++
                  '\n' :: rest) = none := by
                rw [hu, List.append_assoc, List.append_assoc, List.cons_append]
                exact closing?_of_part '"' hother (by omega) _
              rw [List.cons_append, List.cons_append] at hnone ⊢
              rw [readLongBasic, hnone]
              dsimp only
              rw [ih (by omega), List.reverse_cons, ← List.append_cons]
      · rw [if_neg hc]
        by_cases hline : c = '\n'
        · subst hline
          rw [if_pos rfl, List.cons_append, List.cons_append, readLongBasic,
            if_neg Bool.false_ne_true, ih (Nat.zero_le 2), List.reverse_cons, ← List.append_cons]
        · rw [if_neg hline, List.append_assoc, List.append_assoc,
            readLongBasic_escaped (escaped_escape c) hc hline, ← List.append_assoc,
            ih (Nat.zero_le 2), List.reverse_cons, ← List.append_cons]

/-! ## Strings of any form -/

/-- What does not start with its mark is not taken for a string with a tripled one. -/
theorem read?_eq_readShort? {mark : Char} (hline : mark ≠ '\n') {u : Text}
    (hfirst : u.head? ≠ some mark) (rest : Text) :
    read? (mark :: u ++ [mark] ++ '\n' :: rest) =
      readShort? (mark :: u ++ [mark] ++ '\n' :: rest) := by
  have hthree : ∀ more, mark :: u ++ [mark] ++ '\n' :: rest ≠ mark :: mark :: mark :: more := by
    intro more heq
    cases u with
    | nil =>
        cases heq
        exact hline rfl
    | cons c u =>
        injection heq with _ htail
        injection htail with hhead _
        exact hfirst (hhead ▸ rfl)
  rw [read?]
  · intro more heq
    have hmark : mark = '"' := (List.cons.inj heq).1
    subst hmark
    exact hthree more heq
  · intro more heq
    have hmark : mark = '\x27' := (List.cons.inj heq).1
    subst hmark
    exact hthree more heq

theorem read?_basic (t rest : Text) :
    read? (writeAs .basic t ++ '\n' :: rest) = some (t, '\n' :: rest) := by
  have hfirst : (escapeBasic t).head? ≠ some '"' := by
    cases t with
    | nil => exact nofun
    | cons c t =>
        rw [escapeBasic, List.flatMap_cons]
        split
        · simp
        · next hquote =>
            split
            · simp
            · next hline =>
                obtain ⟨x, more, hx, hmark, -, -⟩ := (escaped_escape c).exists_cons hquote hline
                rw [hx, List.cons_append, List.head?_cons, ne_eq, Option.some.injEq]
                exact hmark
  rw [writeAs, read?_eq_readShort? (by decide) hfirst]
  have hread := readBasic_escapeBasic t [] ('\n' :: rest)
  simpa [readShort?] using hread

theorem read?_literal {t : Text} (hplain : ∀ c ∈ t, isPlain c = true) (hmark : '\x27' ∉ t)
    (rest : Text) :
    read? (writeAs .literal t ++ '\n' :: rest) = some (t, '\n' :: rest) := by
  have hfirst : t.head? ≠ some '\x27' := fun hhead => hmark (List.mem_of_mem_head? hhead)
  rw [writeAs, read?_eq_readShort? (by decide) hfirst]
  have hread := readLiteral_plain hplain hmark [] ('\n' :: rest)
  simpa [readShort?] using hread

/-- The line end that comes before a text with line ends is passed over, and nothing else is. -/
theorem getD_lineEnd? (t : Text) {u : Text} (hfirst : '\n' ∉ t → lineEnd? u = none) :
    (lineEnd? ((if t.any (· = '\n') then ['\n'] else []) ++ u)).getD
      ((if t.any (· = '\n') then ['\n'] else []) ++ u) = u := by
  split
  · rfl
  · next hnone =>
      have hline : '\n' ∉ t := by
        intro hmem
        exact hnone (List.any_eq_true.mpr ⟨'\n', hmem, by decide⟩)
      rw [List.nil_append, hfirst hline]
      rfl

theorem read?_longBasic (t rest : Text) :
    read? (writeAs .longBasic t ++ '\n' :: rest) = some (t, '\n' :: rest) := by
  have hfirst : '\n' ∉ t →
      lineEnd? (escapeLong 0 t ++ List.replicate 3 '"' ++ '\n' :: rest) = none := by
    intro hline
    cases t with
    | nil => rfl
    | cons c t =>
        rw [List.mem_cons, not_or] at hline
        rw [escapeLong]
        split
        · rfl
        · next hquote =>
            have hother : c ≠ '\n' := fun heq => hline.1 heq.symm
            obtain ⟨x, more, hx, -, hend, hreturn⟩ :=
              (escaped_escape c).exists_cons hquote hother
            rw [if_neg hother, hx]
            exact lineEnd?_cons hend hreturn _
  have hform : writeAs .longBasic t ++ '\n' :: rest =
      '"' :: '"' :: '"' :: ((if t.any (· = '\n') then ['\n'] else []) ++
        (escapeLong 0 t ++ List.replicate 3 '"' ++ '\n' :: rest)) := by
    simp [writeAs]
  rw [hform, read?, getD_lineEnd? t hfirst, readLongBasic_escapeLong t (Nat.zero_le 2)]
  rfl

theorem read?_longLiteral {t : Text} (hescape : ∀ c ∈ t, needsEscape c = false)
    (hruns : longestRun '\x27' t ≤ 2) (rest : Text) :
    read? (writeAs .longLiteral t ++ '\n' :: rest) = some (t, '\n' :: rest) := by
  have hfirst : '\n' ∉ t →
      lineEnd? (t ++ List.replicate 3 '\x27' ++ '\n' :: rest) = none := by
    intro hline
    cases t with
    | nil => rfl
    | cons c t =>
        rw [List.mem_cons, not_or] at hline
        have hother : c ≠ '\n' := fun heq => hline.1 heq.symm
        have hplain := isPlain_of_needsEscape (hescape c List.mem_cons_self) hother
        exact lineEnd?_cons hother (ne_return_of_isPlain hplain) _
  have hform : writeAs .longLiteral t ++ '\n' :: rest =
      '\x27' :: '\x27' :: '\x27' :: ((if t.any (· = '\n') then ['\n'] else []) ++
        (t ++ List.replicate 3 '\x27' ++ '\n' :: rest)) := by
    simp [writeAs]
  rw [hform, read?, getD_lineEnd? t hfirst, readLongLiteral_self hescape hruns]
  rfl

/-- **A text that is written as a string is read back.** -/
theorem read?_write (t rest : Text) :
    read? (write t ++ '\n' :: rest) = some (t, '\n' :: rest) := by
  have hescapes (hnone : t.any needsEscape = false) : ∀ c ∈ t, needsEscape c = false := by
    simpa using hnone
  have hlines (hnone : t.any (· = '\n') = false) : ∀ c ∈ t, c ≠ '\n' := by
    simpa using hnone
  unfold write formOf
  dsimp only
  split
  · exact read?_basic t rest
  split
  · next hliteral =>
      simp only [Bool.and_eq_true, Bool.not_eq_true', decide_eq_true_eq] at hliteral
      obtain ⟨⟨hescape, hmark⟩, hline⟩ := hliteral
      refine read?_literal ?_ (not_mem_of_runs hmark) rest
      intro c hc
      exact isPlain_of_needsEscape (hescapes hescape c hc) (hlines hline c hc)
  split
  · exact read?_longBasic t rest
  split
  · next hliteral =>
      simp only [Bool.and_eq_true, Bool.not_eq_true', decide_eq_true_eq] at hliteral
      exact read?_longLiteral (hescapes hliteral.1) hliteral.2 rest
  split
  · exact read?_longBasic t rest
  · exact read?_basic t rest

end Quoted

end OperatorNames.Toml
