import OperatorNames.Text.Basic

/-!
# Numbers in digits

The digits of a number, in any base up to sixteen, are read as that number (`number?_toDigits`), and
the digits that are read tell how great the number may be (`lt_of_number?`).
-/

namespace OperatorNames.Text

theorem hexDigit?_digitChar {base d : Nat} (hbase : base ≤ 16) (hd : d < base) :
    hexDigit? d.digitChar = some d := by
  have hall : ∀ d < 16, hexDigit? (Nat.digitChar d) = some d := by decide
  exact hall d (by omega)

/-- A number with one more digit. -/
def withDigit? (base n : Nat) (c : Char) : Option Nat :=
  (hexDigit? c).bind fun d => if d < base then some (n * base + d) else none

theorem number?_eq {base : Nat} {t : Text} (ht : t ≠ []) :
    number? base t = t.foldlM (withDigit? base) 0 := by
  rw [number?, List.isEmpty_eq_false_iff.mpr ht, if_neg Bool.false_ne_true]
  rfl

theorem withDigit?_digitChar {base d : Nat} (hbase : base ≤ 16) (hd : d < base) (n : Nat) :
    withDigit? base n d.digitChar = some (n * base + d) := by
  rw [withDigit?, hexDigit?_digitChar hbase hd, Option.bind_some, if_pos hd]

theorem lt_of_withDigit? {base n next : Nat} {c : Char} (hnext : withDigit? base n c = some next) :
    next < (n + 1) * base := by
  obtain ⟨d, -, hvalue⟩ := Option.bind_eq_some_iff.mp hnext
  obtain ⟨hd, hsum⟩ := Option.ite_none_right_eq_some.mp hvalue
  rw [← Option.some.inj hsum, Nat.succ_mul]
  omega

/-- The digits of a number are read as that number. -/
theorem number?_toDigits {base : Nat} (hpos : 1 < base) (hbase : base ≤ 16) (n : Nat) :
    number? base (Nat.toDigits base n) = some n := by
  rw [number?_eq Nat.toDigits_ne_nil]
  induction n using Nat.strongRecOn with
  | ind n ih =>
      rw [Nat.toDigits_eq_if hpos]
      split
      · next hsmall =>
          rw [List.foldlM_cons, withDigit?_digitChar hbase hsmall, Nat.zero_mul, Nat.zero_add]
          rfl
      · next hlarge =>
          have hlast : n % base < base := Nat.mod_lt n (by omega)
          have hfewer : n / base < n := Nat.div_lt_self (by omega) hpos
          rw [List.foldlM_append, ih (n / base) hfewer, Option.bind_eq_bind, Option.bind_some,
            List.foldlM_cons, withDigit?_digitChar hbase hlast, Nat.mul_comm, Nat.div_add_mod]
          rfl

theorem number?_decimal (n : Nat) : number? 10 (decimal n) = some n :=
  number?_toDigits (by decide) (by decide) n

theorem number?_hex (n : Nat) : number? 16 (hex n) = some n :=
  number?_toDigits (by decide) (by decide) n

/-- Every digit of a number stands for a value below the base. -/
theorem exists_digitChar {base : Nat} (hpos : 1 < base) {n : Nat} {c : Char}
    (hc : c ∈ Nat.toDigits base n) : ∃ d < base, c = d.digitChar := by
  induction n using Nat.strongRecOn with
  | ind n ih =>
      rw [Nat.toDigits_eq_if hpos] at hc
      split at hc
      · next hsmall => exact ⟨n, hsmall, List.mem_singleton.mp hc⟩
      · next hlarge =>
          rcases List.mem_append.mp hc with hbefore | hlast
          · exact ih (n / base) (Nat.div_lt_self (by omega) hpos) hbefore
          · exact ⟨n % base, Nat.mod_lt n (by omega), List.mem_singleton.mp hlast⟩

/-- What is true of all sixteen digits is true of all characters of a number. -/
theorem forall_mem_hex {P : Char → Prop} (hall : ∀ d < 16, P (Nat.digitChar d)) {n : Nat} :
    ∀ c ∈ hex n, P c := by
  intro c hc
  obtain ⟨d, hd, rfl⟩ := exists_digitChar (by decide) hc
  exact hall d hd

theorem forall_mem_decimal {P : Char → Prop} (hall : ∀ d < 10, P (Nat.digitChar d)) {n : Nat} :
    ∀ c ∈ decimal n, P c := by
  intro c hc
  obtain ⟨d, hd, rfl⟩ := exists_digitChar (by decide) hc
  exact hall d hd

theorem lt_of_foldlM_withDigit? {base n : Nat} {t : Text} {m : Nat}
    (hfold : t.foldlM (withDigit? base) m = some n) : n < (m + 1) * Nat.pow base t.length := by
  induction t generalizing m with
  | nil =>
      have hsame : m = n := Option.some.inj hfold
      rw [← hsame, List.length_nil, Nat.pow_eq, Nat.pow_zero, Nat.mul_one]
      exact Nat.lt_succ_self m
  | cons c t ih =>
      rw [List.foldlM_cons] at hfold
      obtain ⟨next, hnext, hrest⟩ := Option.bind_eq_some_iff.mp hfold
      have hstep : next + 1 ≤ (m + 1) * base := lt_of_withDigit? hnext
      calc n < (next + 1) * Nat.pow base t.length := ih hrest
        _ ≤ (m + 1) * base * Nat.pow base t.length := Nat.mul_le_mul_right _ hstep
        _ = (m + 1) * Nat.pow base (c :: t).length := by
            rw [List.length_cons, Nat.pow_eq, Nat.pow_eq, Nat.pow_succ, Nat.mul_assoc,
              Nat.mul_comm base]

/-- A number is less than there are rows of as many digits. -/
theorem lt_of_number? {base n : Nat} {t : Text} (hnumber : number? base t = some n) :
    n < Nat.pow base t.length := by
  cases t with
  | nil => cases hnumber
  | cons c t =>
      rw [number?_eq (List.cons_ne_nil c t)] at hnumber
      have hlt := lt_of_foldlM_withDigit? hnumber
      rwa [Nat.zero_add, Nat.one_mul] at hlt

theorem hex_ne_nil (n : Nat) : hex n ≠ [] :=
  Nat.toDigits_ne_nil

end OperatorNames.Text
