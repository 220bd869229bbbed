import OperatorNames.Toml.Document

/-!
# Whole numbers read back

The decimal digits of a number are read as that number (`scalar?_decimal`): they are no date and no
time, and no point or exponent follows them.
-/

namespace OperatorNames.Toml

open Text

/-- The characters of a text are decimal digits. -/
def AllDigits (t : Text) : Prop :=
  ∀ c ∈ t, c.isDigit = true

theorem ne_of_isDigit {c d : Char} (hc : c.isDigit = true) (hd : d.isDigit = false) : c ≠ d := by
  rintro rfl
  rw [hc] at hd
  cases hd

theorem allDigits_decimal (n : Nat) : AllDigits (decimal n) := by
  intro c hc
  exact Nat.isDigit_of_mem_toDigits (by decide) (by decide) hc

theorem decimal_ne_nil (n : Nat) : decimal n ≠ [] :=
  Nat.toDigits_ne_nil

/-- The digits of a number do not start with zero, except those of zero. -/
theorem head?_decimal {n : Nat} (hn : 0 < n) : (decimal n).head? ≠ some '0' := by
  induction n using Nat.strongRecOn with
  | ind n ih =>
      rw [decimal, Nat.toDigits_eq_if (by decide)]
      split
      · next hsmall =>
          have hdigit : ∀ d < 10, 0 < d → d.digitChar ≠ '0' := by decide
          simpa using hdigit n hsmall hn
      · next hlarge =>
          have hupper := ih (n / 10) (by omega) (by omega)
          rw [decimal] at hupper
          cases hdigits : Nat.toDigits 10 (n / 10) with
          | nil => exact absurd hdigits Nat.toDigits_ne_nil
          | cons c ds =>
              rw [hdigits] at hupper
              exact hupper

/-- A number is written as a zero or starts with another digit. -/
theorem decimal_cases (n : Nat) : decimal n = ['0'] ∨
    ∃ c t, decimal n = c :: t ∧ c ≠ '0' ∧ c.isDigit = true ∧ AllDigits t := by
  rcases Nat.eq_zero_or_pos n with rfl | hn
  · exact .inl rfl
  · have hdigits := allDigits_decimal n
    have hhead := head?_decimal hn
    cases ht : decimal n with
    | nil => exact absurd ht (decimal_ne_nil n)
    | cons c t =>
        rw [ht] at hdigits hhead
        refine .inr ⟨c, t, rfl, ?_, hdigits c List.mem_cons_self, ?_⟩
        · rintro rfl
          exact hhead rfl
        · exact fun d hd => hdigits d (List.mem_cons_of_mem c hd)

/-- Only the end of the line follows a zero at the front. -/
theorem eq_of_decimal_zero {n : Nat} {x : Char} {rest more : Text}
    (heq : decimal n ++ '\n' :: rest = '0' :: x :: more) : x = '\n' := by
  rcases decimal_cases n with hzero | ⟨c, t, hn, hc, -, -⟩
  · rw [hzero] at heq
    cases heq
    rfl
  · rw [hn] at heq
    injection heq with hhead _
    exact absurd hhead hc

/-! ## Digits -/

theorem hexDigit?_of_isDigit {c : Char} (hc : c.isDigit = true) :
    hexDigit? c = some (c.toNat - 48) ∧ c.toNat - 48 < 10 := by
  simp only [Char.isDigit, Bool.and_eq_true, decide_eq_true_eq] at hc
  have hlow : '0' ≤ c := hc.1
  have hhigh : c ≤ '9' := hc.2
  have hle : c.toNat ≤ 57 := hc.2
  rw [hexDigit?, if_pos ⟨hlow, hhigh⟩]
  exact ⟨rfl, by omega⟩

theorem AllDigits.tail {c : Char} {t : Text} (ht : AllDigits (c :: t)) : AllDigits t :=
  fun d hd => ht d (List.mem_cons_of_mem c hd)

theorem number?_of_allDigits {t : Text} (ht : AllDigits t) (hne : t ≠ []) :
    number? 10 t = some (Nat.ofDigitChars 10 t 0) := by
  have hfrom (start : Nat) : t.foldlM (fun n c => (hexDigit? c).bind fun d =>
      if d < 10 then some (n * 10 + d) else none) start = some (Nat.ofDigitChars 10 t start) := by
    clear hne
    induction t generalizing start with
    | nil => rfl
    | cons c t ih =>
        obtain ⟨hvalue, hlow⟩ := hexDigit?_of_isDigit (ht c List.mem_cons_self)
        rw [List.foldlM_cons, hvalue, Option.bind_some, if_pos hlow, Nat.ofDigitChars_cons,
          Nat.mul_comm start 10]
        exact ih ht.tail _
  rw [number?, if_neg (by simpa using hne)]
  exact hfrom 0

namespace Number

theorem isDigit_ten {c : Char} (hc : c.isDigit = true) : isDigit 10 c = true := by
  obtain ⟨hvalue, hlow⟩ := hexDigit?_of_isDigit hc
  rw [isDigit, hvalue]
  exact decide_eq_true hlow

theorem value_decimal (n : Nat) : value 10 (decimal n) = n := by
  rw [value, number?_of_allDigits (allDigits_decimal n) (decimal_ne_nil n)]
  exact Nat.ofDigitChars_ten_toDigits

theorem digitsFrom_of_allDigits {t : Text} (ht : AllDigits t) (done rest : Text) :
    digitsFrom 10 done (t ++ '\n' :: rest) = (done.reverse ++ t, '\n' :: rest) := by
  induction t generalizing done with
  | nil => simp [digitsFrom, isDigit, hexDigit?]
  | cons c t ih =>
      have hc := ht c List.mem_cons_self
      have hmark : c ≠ '_' := ne_of_isDigit hc rfl
      rw [List.cons_append, digitsFrom, if_pos (isDigit_ten hc), ih ht.tail, List.reverse_cons,
        List.append_assoc, List.singleton_append]
      intro _ _ heq
      exact absurd heq hmark

theorem whole?_decimal (n : Nat) (rest : Text) :
    whole? (decimal n ++ '\n' :: rest) = some (decimal n, '\n' :: rest) := by
  rcases decimal_cases n with hzero | ⟨c, t, hn, hc, hdigit, ht⟩
  · rw [hzero]
    rfl
  · rw [hn, List.cons_append, whole?, digits?, if_pos (isDigit_ten hdigit),
      digitsFrom_of_allDigits ht, List.reverse_singleton, List.singleton_append]
    intro _ heq
    injection heq with hhead _
    exact absurd hhead hc

theorem head_decimal (n : Nat) (rest : Text) :
    ∃ c t, decimal n ++ rest = c :: t ∧ c.isDigit = true := by
  rcases decimal_cases n with hzero | ⟨c, t, hn, -, hdigit, -⟩
  · exact ⟨'0', rest, by rw [hzero]; rfl, by decide⟩
  · exact ⟨c, t ++ rest, by rw [hn]; rfl, hdigit⟩

theorem sign_decimal (n : Nat) (rest : Text) :
    sign (decimal n ++ rest) = (false, decimal n ++ rest) := by
  obtain ⟨c, t, hn, hdigit⟩ := head_decimal n rest
  rw [hn, sign]
  · intro _ heq
    exact ne_of_isDigit hdigit rfl (List.cons.inj heq).1
  · intro _ heq
    exact ne_of_isDigit hdigit rfl (List.cons.inj heq).1

theorem float?_decimal (n : Nat) (rest : Text) : float? (decimal n ++ '\n' :: rest) = none := by
  have hdecimal : decimal? (decimal n ++ '\n' :: rest) = none := by
    rw [decimal?, sign_decimal]
    dsimp only
    rw [whole?_decimal]
    rfl
  obtain ⟨c, t, hn, hdigit⟩ := head_decimal n ('\n' :: rest)
  rw [float?, sign_decimal, hn]
  rw [hn] at hdecimal
  split
  · next heq =>
      cases heq
      cases hdigit
  · next heq =>
      cases heq
      cases hdigit
  · exact hdecimal

theorem integer?_decimal {n : Nat} (hn : n < bound) (rest : Text) :
    integer? (decimal n ++ '\n' :: rest) = some ((n : Int), '\n' :: rest) := by
  rw [integer?, sign_decimal]
  · dsimp only
    rw [whole?_decimal, Option.bind_some]
    dsimp only
    rw [if_neg Bool.false_ne_true, value_decimal, if_pos (by omega)]
  · intro _ heq
    cases eq_of_decimal_zero heq
  · intro _ heq
    cases eq_of_decimal_zero heq
  · intro _ heq
    cases eq_of_decimal_zero heq

end Number

namespace Moment

/-- Digits end where the text does. -/
theorem digits?_eq_some {t rest after : Text} {count n : Nat}
    (hdigits : digits? count (t ++ '\n' :: rest) = some (n, after)) :
    count ≤ t.length ∧ after = (t ++ '\n' :: rest).drop count := by
  simp only [digits?, Bool.and_eq_true, decide_eq_true_eq] at hdigits
  split at hdigits
  · next hall =>
      obtain ⟨value, -, heq⟩ := Option.map_eq_some_iff.mp hdigits
      cases heq
      refine ⟨?_, rfl⟩
      apply Nat.le_of_not_lt
      intro hlong
      -- otherwise the line end would have to be a digit
      have hsplit : count - t.length = count - t.length - 1 + 1 := by omega
      have hmem : '\n' ∈ (t ++ '\n' :: rest).take count := by
        rw [List.take_append, hsplit, List.take_succ_cons]
        exact List.mem_append_right _ List.mem_cons_self
      have hline := List.all_eq_true.mp hall.2 '\n' hmem
      cases hline
  · cases hdigits

section AllDigits

variable {t : Text} (ht : AllDigits t) (rest : Text)

include ht

/-- No mark stands after some of the digits. -/
theorem mark?_drop {mark : Char} (hdigit : mark.isDigit = false) (hline : mark ≠ '\n')
    {count : Nat} (hcount : count ≤ t.length) :
    mark? mark ((t ++ '\n' :: rest).drop count) = none := by
  rw [List.drop_append_of_le_length hcount]
  cases hdrop : t.drop count with
  | nil => exact if_neg hline
  | cons c more =>
      have hc : c ∈ t := List.mem_of_mem_drop (hdrop ▸ List.mem_cons_self)
      exact if_neg (ne_of_isDigit (ht c hc) hdigit).symm

theorem read?_of_allDigits : read? (t ++ '\n' :: rest) = none := by
  have hdate : date? (t ++ '\n' :: rest) = none := by
    cases hyear : digits? 4 (t ++ '\n' :: rest) with
    | none => simp [date?, hyear]
    | some found =>
        obtain ⟨year, after⟩ := found
        obtain ⟨hcount, rfl⟩ := digits?_eq_some hyear
        have hmark := mark?_drop ht rest (by decide : ('-').isDigit = false) (by decide) hcount
        simp [date?, hyear, hmark]
  have htime : time? (t ++ '\n' :: rest) = none := by
    cases hhour : digits? 2 (t ++ '\n' :: rest) with
    | none => simp [time?, pair?, hhour]
    | some found =>
        obtain ⟨hour, after⟩ := found
        obtain ⟨hcount, rfl⟩ := digits?_eq_some hhour
        have hmark := mark?_drop ht rest (by decide : (':').isDigit = false) (by decide) hcount
        simp [time?, pair?, hhour, hmark]
  rw [read?, hdate]
  exact htime

end AllDigits

end Moment

theorem scalar?_decimal {n : Nat} (hn : n < Number.bound) (rest : Text) :
    scalar? (decimal n ++ '\n' :: rest) = some (.integer n, '\n' :: rest) := by
  have hmoment := Moment.read?_of_allDigits (allDigits_decimal n) rest
  have hfloat := Number.float?_decimal n rest
  have hinteger := Number.integer?_decimal hn rest
  obtain ⟨c, t, heq, hdigit⟩ := Number.head_decimal n ('\n' :: rest)
  have hquote : c ≠ '"' ∧ c ≠ '\x27' := ⟨ne_of_isDigit hdigit rfl, ne_of_isDigit hdigit rfl⟩
  rw [heq] at hmoment hfloat hinteger ⊢
  rw [scalar?]
  dsimp only
  rw [if_neg (by simp [hquote]), if_pos (by simp [hdigit]), hmoment]
  dsimp only
  rw [hfloat, hinteger]
  rfl

end OperatorNames.Toml
