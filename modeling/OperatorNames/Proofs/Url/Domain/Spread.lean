import OperatorNames.Proofs.Url.Domain.Punycode

/-!
# Labels whose characters lie far apart

The characters of a label are told by distances, and the farther apart they lie, the more digits a
distance has.  Where all of them are fourteen code points or more apart, each has three digits or
more once enough have been written (`length_encode`).
-/

namespace OperatorNames.Domain.Punycode

open Text

/-- Whether the characters of a text rise, each by fourteen code points or more. -/
def IsSpread (t : Text) : Prop :=
  t.Pairwise fun c d => c.toNat + 14 ≤ d.toNat

/-- A great number has three digits or more, whatever the bias. -/
theorem length_writeNumber {bias place n : Nat} (hn : 911 ≤ n) :
    3 ≤ (writeNumber bias place n).length := by
  obtain ⟨hpos, hle⟩ := threshold_bounds bias place
  have hbase : base = 36 := rfl
  have hhigh : 26 ≤ (n - threshold bias place) / (base - threshold bias place) := by
    rw [Nat.le_div_iff_mul_le (by omega)]
    omega
  obtain ⟨-, hnext⟩ := threshold_bounds bias (place + base)
  rw [writeNumber, if_neg (by omega), writeNumber, if_neg (by omega), List.length_cons,
    List.length_cons]
  have hlast := List.length_pos_iff.mpr (writeNumber_ne_nil bias (place + base + base)
    (((n - threshold bias place) / (base - threshold bias place) - threshold bias (place + base))
      / (base - threshold bias (place + base))))
  omega

/-! ## One pass over a rising label -/

section

variable {n : Nat} {t : Text}

theorem Writer.pass_append (w : Writer) (t t' : Text) :
    w.pass n (t ++ t') = (w.pass n t).pass n t' :=
  List.foldl_append

/-- Lesser characters are counted. -/
theorem Writer.pass_of_lt (ht : ∀ c ∈ t, c.toNat < n) (w : Writer) :
    w.pass n t = { w with delta := w.delta + t.length } := by
  induction t generalizing w with
  | nil => rfl
  | cons c t ih =>
      rw [List.forall_mem_cons] at ht
      rw [Writer.pass_cons, ih ht.2, Writer.step, if_pos ht.1, List.length_cons]
      dsimp only
      rw [Nat.add_assoc, Nat.add_comm 1]

/-- Greater characters are passed over. -/
theorem Writer.pass_of_gt (ht : ∀ c ∈ t, n < c.toNat) (w : Writer) : w.pass n t = w := by
  induction t with
  | nil => rfl
  | cons c t ih =>
      rw [List.forall_mem_cons] at ht
      have hgt := ht.1
      rw [Writer.pass_cons, Writer.step, if_neg (by omega), if_neg (by omega), ih ht.2]

end

/-- The code points from `n` on that are left of a rising label. -/
theorem filter_rising {n : Nat} {passed rest : Text} (hpassed : ∀ d ∈ passed, d.toNat < n)
    (hrest : ∀ d ∈ rest, n ≤ d.toNat) : (passed ++ rest).filter (n ≤ ·.toNat) = rest := by
  have hnone : passed.filter (n ≤ ·.toNat) = [] := List.filter_eq_nil_iff.mpr fun d hd h => by
    have hlt := hpassed d hd
    have hle := of_decide_eq_true h
    omega
  rw [List.filter_append, hnone, List.nil_append, List.filter_eq_self]
  exact fun d hd => decide_eq_true (hrest d hd)

/-! ## All passes -/

/-- The writer after the next character, which has been told by a distance. -/
def Writer.told (w : Writer) (delta : Nat) : Writer :=
  { written := w.written ++ writeNumber w.bias base delta
    delta := 1
    bias := adapt delta (w.count + 1) (w.count = w.literals)
    count := w.count + 1
    literals := w.literals }

/-- The next character of a rising label is told by how far its code point lies ahead, for every
place there is, and by its own place. -/
theorem passes_rising {passed rest : Text} {c : Char} {n : Nat}
    (hpassed : ∀ d ∈ passed, d.toNat < n) (hc : n ≤ c.toNat) (hrest : ∀ d ∈ rest, c.toNat < d.toNat)
    (fuel : Nat) (w : Writer) :
    Writer.passes (passed ++ c :: rest) (fuel + 1) n w
      = Writer.passes (passed ++ c :: rest) fuel (c.toNat + 1)
          (w.told (w.delta + (c.toNat - n) * (w.count + 1) + passed.length)) := by
  have hfrom : ∀ d ∈ c :: rest, n ≤ d.toNat := List.forall_mem_cons.mpr
    ⟨hc, fun d hd => Nat.le_trans hc (Nat.le_of_lt (hrest d hd))⟩
  have hbelow : ∀ d ∈ passed, d.toNat < c.toNat :=
    fun d hd => Nat.lt_of_lt_of_le (hpassed d hd) hc
  have hmin : (rest.map Char.toNat).foldl min c.toNat = c.toNat := by
    have hleast : (c.toNat :: rest.map Char.toNat).min? = some c.toNat := by
      refine List.min?_eq_some_iff.mpr ⟨List.mem_cons_self, List.forall_mem_cons.mpr
        ⟨Nat.le_refl _, fun m hm => ?_⟩⟩
      obtain ⟨d, hd, rfl⟩ := List.mem_map.mp hm
      exact Nat.le_of_lt (hrest d hd)
    rw [List.min?_cons'] at hleast
    exact Option.some.inj hleast
  rw [Writer.passes, filter_rising hpassed hfrom, List.map_cons]
  dsimp only
  rw [hmin, Writer.pass_append, Writer.pass_of_lt hbelow, Writer.pass_cons,
    Writer.pass_of_gt hrest, Writer.step, if_neg (Nat.lt_irrefl _), if_pos rfl]
  rfl

/-- Once sixty-five characters have been written, each of the others has three digits or more. -/
theorem length_passes {passed rest : Text} {n fuel : Nat} {w : Writer}
    (hpassed : ∀ d ∈ passed, d.toNat < n) (hrest : ∀ d ∈ rest, n + 13 ≤ d.toNat)
    (hspread : IsSpread rest) (hcount : w.count = passed.length) (hfuel : rest.length ≤ fuel) :
    w.written.length + 3 * (rest.length - (65 - passed.length))
      ≤ (Writer.passes (passed ++ rest) fuel n w).length := by
  induction rest generalizing passed n fuel w with
  | nil =>
      have hnone := filter_rising hpassed (List.forall_mem_nil _)
      cases fuel with
      | zero => simp [Writer.passes]
      | succ fuel =>
          rw [Writer.passes, hnone]
          simp
  | cons c rest ih =>
      obtain ⟨hc, -⟩ := List.forall_mem_cons.mp hrest
      obtain ⟨hfirst, hmore⟩ := List.pairwise_cons.mp hspread
      obtain ⟨fuel, rfl⟩ : ∃ less, fuel = less + 1 := ⟨fuel - 1, by
        rw [List.length_cons] at hfuel
        omega⟩
      have hnext : ∀ d ∈ passed ++ [c], d.toNat < c.toNat + 1 :=
        List.forall_mem_append.mpr ⟨fun d hd => by
          have hlt := hpassed d hd
          omega, List.forall_mem_singleton.mpr (Nat.lt_succ_self _)⟩
      have hlater : ∀ d ∈ rest, c.toNat + 1 + 13 ≤ d.toNat := hfirst
      have hdigits : 65 ≤ passed.length → 3 ≤ (writeNumber w.bias base
          (w.delta + (c.toNat - n) * (w.count + 1) + passed.length)).length := by
        intro hmany
        -- thirteen code points ahead, with sixty-six places or more for each, and the place itself
        refine length_writeNumber ?_
        have hgap : 13 * (w.count + 1) ≤ (c.toNat - n) * (w.count + 1) :=
          Nat.mul_le_mul_right _ (by omega)
        omega
      rw [passes_rising hpassed (by omega) fun d hd => by
        have hlt := hfirst d hd
        omega]
      rw [List.append_cons]
      refine Nat.le_trans ?_ (ih hnext hlater hmore ?_ (Nat.le_of_succ_le_succ hfuel))
      · rw [Writer.told, List.length_append, List.length_append, List.length_cons,
          List.length_singleton]
        generalize (writeNumber w.bias base _).length = digits at hdigits ⊢
        omega
      · rw [Writer.told, List.length_append, hcount]
        rfl

/-- The encoded form of a label whose characters lie far apart is long. -/
theorem length_encode {label : Text} (hspread : IsSpread label)
    (hlarge : ∀ c ∈ label, firstCode + 13 ≤ c.toNat) :
    3 * (label.length - 65) ≤ (encode label).length := by
  have hliterals : label.filter (·.toNat < firstCode) = [] :=
    List.filter_eq_nil_iff.mpr fun c hc h => by
      have hle := hlarge c hc
      have hlt := of_decide_eq_true h
      omega
  rw [encode, hliterals]
  have hlength := length_passes (List.forall_mem_nil _) hlarge hspread
    (show ({ written := [], delta := 0, bias := 72, count := 0, literals := 0 } : Writer).count
      = ([] : Text).length from rfl) (Nat.le_refl _)
  rw [List.length_nil, Nat.zero_add] at hlength
  exact hlength

end OperatorNames.Domain.Punycode
