import OperatorNames.Proofs.Text.Digits
import OperatorNames.Proofs.Text.Pieces
import OperatorNames.Proofs.Toml.Number
import OperatorNames.Url.Ipv4

/-!
# IPv4 addresses in writing

What is read has 32 bits (`lt_of_read?`), and an address of 32 bits is read back from its four
numbers (`read?_write`).
-/

namespace OperatorNames.Ipv4

open Text

/-- A number in decimal digits starts with no zero that would make it octal. -/
theorem number?_decimal (n : Nat) : number? (decimal n) = some n := by
  have hvalue := Text.number?_decimal n
  rcases Toml.decimal_cases n with hzero | ⟨c, t, hdigits, hc, -, -⟩
  · rw [hzero] at hvalue ⊢
    exact hvalue
  · rw [hdigits] at hvalue ⊢
    unfold number?
    split
    · next heq => cases heq
    · next heq =>
        cases heq
        exact absurd rfl hc
    · next heq =>
        cases heq
        exact absurd rfl hc
    · exact hvalue

/-- The four numbers of an address. -/
def numbers (address : Nat) : List Nat :=
  [address / 0x1000000 % 256, address / 0x10000 % 256, address / 0x100 % 256, address % 256]

theorem cutAt_write (address : Nat) :
    cutAt (· = '.') (write address) = (numbers address).map decimal := by
  have hpieces : ∀ piece ∈ (numbers address).map decimal, '.' ∉ piece := by
    intro piece hpiece hpoint
    obtain ⟨n, -, rfl⟩ := List.mem_map.mp hpiece
    exact forall_mem_decimal (P := (· ≠ '.')) (by decide) '.' hpoint rfl
  exact cutAt_eq_joinWith (List.cons_ne_nil _ _) hpieces

/-- What an address is written with: the digits of its numbers and points. -/
theorem mem_write {address : Nat} {c : Char} (hc : c ∈ write address) :
    c = '.' ∨ ∃ n, c ∈ decimal n := by
  rcases mem_joinWith hc with hpoint | ⟨piece, hpiece, hdigit⟩
  · exact .inl (List.mem_singleton.mp hpoint)
  · obtain ⟨n, -, rfl⟩ := List.mem_map.mp hpiece
    exact .inr ⟨n, hdigit⟩

theorem parts_write (address : Nat) : parts (write address) = (numbers address).map decimal := by
  have hlast : ((numbers address).map decimal).getLast? ≠ some [] := by
    change some (decimal (address % 256)) ≠ some []
    intro h
    exact Toml.decimal_ne_nil _ (Option.some.inj h)
  unfold parts
  rw [cutAt_write]
  exact if_neg fun h => hlast (of_decide_eq_true (Bool.and_eq_true_iff.mp h).2)

theorem endsInNumber_write (address : Nat) : endsInNumber (write address) = true := by
  have hlast : (parts (write address)).getLast? = some (decimal (address % 256)) := by
    rw [parts_write]
    rfl
  have hdigits : (decimal (address % 256)).all Char.isDigit = true :=
    List.all_eq_true.mpr (Toml.allDigits_decimal _)
  have hne : (decimal (address % 256)).isEmpty = false :=
    List.isEmpty_eq_false_iff.mpr (Toml.decimal_ne_nil _)
  unfold endsInNumber
  rw [hlast]
  dsimp only
  rw [hdigits, hne]
  rfl

/-- The address that four octets stand for. -/
theorem ofNumbers?_octets {a b c d : Nat} (ha : a < 256) (hb : b < 256) (hc : c < 256)
    (hd : d < 256) :
    ofNumbers? [a, b, c, d] = some (((a * 256 + b) * 256 + c) * 256 + d) := by
  have hbefore : [c, b, a].any (255 < ·) = false := by
    simp only [List.any_cons, List.any_nil, Bool.or_false, Bool.or_eq_false_iff,
      decide_eq_false_iff_not]
    omega
  have hlast : ¬ 256 ≤ d := by omega
  show (if (3 < 3 || [c, b, a].any (255 < ·) || 256 ≤ d) = true then none
    else some ((((0 * 256 + a) * 256 + b) * 256 + c) * 256 + d)) = _
  rw [hbefore, decide_eq_false hlast, if_neg (by decide), Nat.zero_mul, Nat.zero_add]

/-- An address is read back from its four numbers. -/
theorem read?_write {address : Nat} (haddress : address < 0x100000000) :
    read? (write address) = some address := by
  have hnumbers : (numbers address).mapM (number? ∘ decimal) = some (numbers address) := by
    have hsame : number? ∘ decimal = some := funext number?_decimal
    rw [hsame]
    rfl
  have hsum : ((address / 0x1000000 % 256 * 256 + address / 0x10000 % 256) * 256
      + address / 0x100 % 256) * 256 + address % 256 = address := by
    omega
  unfold read?
  rw [parts_write, List.mapM_map, hnumbers, Option.bind_some, numbers,
    ofNumbers?_octets (by omega) (by omega) (by omega) (by omega), hsum]

/-- Numbers that make an address make one of 32 bits. -/
theorem lt_of_ofNumbers? {l : List Nat} {address : Nat} (hnumbers : ofNumbers? l = some address) :
    address < 0x100000000 := by
  unfold ofNumbers? at hnumbers
  split at hnumbers
  · cases hnumbers
  · next last before hl =>
      dsimp only at hnumbers
      split at hnumbers
      · cases hnumbers
      · next hbounds =>
          rw [Bool.or_eq_true, Bool.or_eq_true, decide_eq_true_eq, decide_eq_true_eq] at hbounds
          have hcount : before.length ≤ 3 := by omega
          have hbefore : ∀ n ∈ before, n ≤ 255 := by
            intro n hn
            refine Nat.le_of_not_lt fun hlarge => hbounds (.inl (.inr ?_))
            exact List.any_eq_true.mpr ⟨n, hn, decide_eq_true hlarge⟩
          have hlast : last < Nat.pow 256 (4 - before.length) := by omega
          have hsum := (Option.some.inj hnumbers).symm
          -- three numbers at most stand before the last one
          rcases before with _ | ⟨a, _ | ⟨b, _ | ⟨c, _ | ⟨d, before⟩⟩⟩⟩
          · have hbound : last < 4294967296 := hlast
            have hvalue : address = 0 * 4294967296 + last := hsum
            omega
          · have ha := hbefore a (by simp)
            have hbound : last < 16777216 := hlast
            have hvalue : address = (0 * 256 + a) * 16777216 + last := hsum
            omega
          · have ha := hbefore a (by simp)
            have hb := hbefore b (by simp)
            have hbound : last < 65536 := hlast
            have hvalue : address = ((0 * 256 + b) * 256 + a) * 65536 + last := hsum
            omega
          · have ha := hbefore a (by simp)
            have hb := hbefore b (by simp)
            have hc := hbefore c (by simp)
            have hbound : last < 256 := hlast
            have hvalue : address = (((0 * 256 + c) * 256 + b) * 256 + a) * 256 + last := hsum
            omega
          · have hlong : before.length + 4 ≤ 3 := hcount
            omega

theorem lt_of_read? {host : Text} {address : Nat} (hread : read? host = some address) :
    address < 0x100000000 := by
  obtain ⟨l, -, hnumbers⟩ := Option.bind_eq_some_iff.mp hread
  exact lt_of_ofNumbers? hnumbers

/-- A name of one label that begins with no digit ends in no number. -/
theorem endsInNumber_eq_false {c : Char} {more : Text} (hdigit : c.isDigit = false)
    (hhex : hexDigit? c = none) (hpoint : '.' ∉ c :: more) : endsInNumber (c :: more) = false := by
  have hparts : parts (c :: more) = [c :: more] := by
    have hcut : cutAt (· = '.') (c :: more) = [c :: more] := by
      refine cutAt_eq_singleton fun d hd => decide_eq_false ?_
      rintro rfl
      exact hpoint hd
    rw [parts, hcut]
    rfl
  have hzero : c ≠ '0' := by
    rintro rfl
    cases hhex
  have hnone : number? (c :: more) = none := by
    have hplain : Text.number? 10 (c :: more) = none := by
      rw [number?_eq (List.cons_ne_nil c more), List.foldlM_cons, withDigit?, hhex]
      rfl
    unfold number?
    split
    · rfl
    · next heq => exact absurd (List.cons.inj heq).1 hzero
    · next heq => exact absurd (List.cons.inj heq).1 hzero
    · exact hplain
  unfold endsInNumber
  rw [hparts]
  dsimp only [List.getLast?_singleton]
  rw [List.all_cons, hdigit, hnone]
  rfl

end OperatorNames.Ipv4
