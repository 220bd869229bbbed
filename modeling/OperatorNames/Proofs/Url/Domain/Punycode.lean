import OperatorNames.Proofs.Text.Pieces
import OperatorNames.Proofs.Text.Utf8
import OperatorNames.Url.Domain.Punycode

/-!
# Encoded labels are decoded again

A label that has been encoded is decoded to itself (`decode?_encode`), however many characters
beyond ASCII it has and wherever they stand.

The reader is kept beside the writer.  While the writer passes over the label for a code point, the
reader holds what it has been told of: of the part that has been passed the characters up to that
code point, of the rest those below it (`heldAfter`).  The distance that the writer is about to tell
is what the reader lacks of the place where the writer stands (`Follows`).
-/

namespace OperatorNames.Domain.Punycode

open Text

/-! ## Numbers -/

theorem value?_digit {d : Nat} (hd : d < base) : value? (digit d) = some d := by
  have hall : ∀ d < 36, value? (digit d) = some d := by decide
  exact hall d hd

theorem threshold_bounds (bias place : Nat) :
    1 ≤ threshold bias place ∧ threshold bias place ≤ 26 := by
  unfold threshold
  omega

/-- A digit below the threshold ends a number. -/
theorem readNumber?_last {bias place weight sum d : Nat} (hd : d < threshold bias place)
    (rest : Text) :
    readNumber? bias place weight sum (digit d :: rest) = some (sum + d * weight, rest) := by
  obtain ⟨-, hle⟩ := threshold_bounds bias place
  have hvalue : value? (digit d) = some d := value?_digit (Nat.lt_of_lt_of_le hd (by
    rw [base]
    omega))
  rw [readNumber?, hvalue, Option.bind_some]
  exact if_pos hd

/-- Any other digit is followed by more. -/
theorem readNumber?_more {bias place weight sum d : Nat} (hd : threshold bias place ≤ d)
    (hdigit : d < base) (rest : Text) :
    readNumber? bias place weight sum (digit d :: rest)
      = readNumber? bias (place + base) (weight * (base - threshold bias place))
          (sum + d * weight) rest := by
  rw [readNumber?, value?_digit hdigit, Option.bind_some]
  exact if_neg (Nat.not_lt.mpr hd)

/-- A number is read from its digits, whatever follows them. -/
theorem readNumber?_writeNumber (bias place n weight sum : Nat) (rest : Text) :
    readNumber? bias place weight sum (writeNumber bias place n ++ rest)
      = some (sum + n * weight, rest) := by
  induction n using Nat.strongRecOn generalizing place weight sum with
  | ind n ih =>
      obtain ⟨hpos, hle⟩ := threshold_bounds bias place
      rw [writeNumber]
      split
      · next hlast => exact readNumber?_last hlast rest
      · next hmore =>
          have hbase : base = 36 := rfl
          have hdigit := Nat.mod_lt (n - threshold bias place)
            (show 0 < base - threshold bias place by omega)
          have hless : (n - threshold bias place) / (base - threshold bias place) < n :=
            Nat.lt_of_le_of_lt (Nat.div_le_self _ _) (by omega)
          have hparts := Nat.div_add_mod (n - threshold bias place)
            (base - threshold bias place)
          rw [List.cons_append, readNumber?_more (Nat.le_add_right _ _) (by omega), ih _ hless]
          generalize (n - threshold bias place) / (base - threshold bias place) = high at hparts ⊢
          generalize (n - threshold bias place) % (base - threshold bias place) = low at hparts ⊢
          generalize base - threshold bias place = scale at hparts ⊢
          have hn : n = threshold bias place + low + high * scale := by
            rw [Nat.mul_comm] at hparts
            omega
          -- the writer divides by the scale that the reader multiplies the weight by
          have hsum : sum + (threshold bias place + low) * weight + high * (weight * scale)
              = sum + n * weight := by
            conv => rhs; rw [hn, Nat.add_mul]
            rw [Nat.add_assoc, Nat.mul_assoc, Nat.mul_comm weight scale]
          rw [hsum]

/-- A number has a digit at least. -/
theorem writeNumber_ne_nil (bias place n : Nat) : writeNumber bias place n ≠ [] := by
  rw [writeNumber]
  split <;> exact List.cons_ne_nil _ _

/-- Whether a character is a digit of a number. -/
def IsDigit (c : Char) : Prop :=
  ∃ d < base, c = digit d

theorem IsDigit.forall_of {P : Char → Prop} (hall : ∀ d < base, P (digit d)) {c : Char}
    (hc : IsDigit c) : P c := by
  obtain ⟨d, hd, rfl⟩ := hc
  exact hall d hd

theorem isDigit_of_mem_writeNumber {bias place n : Nat} {c : Char}
    (hc : c ∈ writeNumber bias place n) : IsDigit c := by
  induction n using Nat.strongRecOn generalizing place with
  | ind n ih =>
      obtain ⟨hpos, hle⟩ := threshold_bounds bias place
      have hbase : base = 36 := rfl
      rw [writeNumber] at hc
      split at hc
      · next hlast => exact ⟨n, by omega, List.mem_singleton.mp hc⟩
      · next hmore =>
          have hdigit := Nat.mod_lt (n - threshold bias place)
            (show 0 < base - threshold bias place by omega)
          have hless : (n - threshold bias place) / (base - threshold bias place) < n :=
            Nat.lt_of_le_of_lt (Nat.div_le_self _ _) (by omega)
          rcases List.mem_cons.mp hc with hfirst | hrest
          · exact ⟨_, by omega, hfirst⟩
          · exact ih _ hless hrest

/-- What follows a number is shorter than the text that begins with it. -/
theorem length_lt_of_readNumber? {bias place weight sum n : Nat} {t rest : Text}
    (hread : readNumber? bias place weight sum t = some (n, rest)) : rest.length < t.length := by
  induction t generalizing place weight sum with
  | nil => cases hread
  | cons c t ih =>
      rw [readNumber?] at hread
      obtain ⟨d, -, hmore⟩ := Option.bind_eq_some_iff.mp hread
      dsimp only at hmore
      split at hmore
      · cases hmore
        exact Nat.lt_succ_self _
      · exact Nat.lt_succ_of_lt (ih hmore)

/-! ## The reader -/

/-- Where the reader stands. -/
structure Reader where
  /-- The label so far. -/
  label : Text
  /-- The last code point. -/
  code : Nat
  /-- The place after the last character. -/
  index : Nat
  /-- The bias of the next number. -/
  bias : Nat
  /-- Whether no number has been read yet. -/
  first : Bool

namespace Reader

/-- The code point of the character that a distance leads to. -/
def nextCode (r : Reader) (delta : Nat) : Nat :=
  r.code + (r.index + delta) / (r.label.length + 1)

/-- Puts in the character that a distance leads to. -/
def insert (r : Reader) (delta : Nat) : Reader :=
  let place := (r.index + delta) % (r.label.length + 1)
  { label := r.label.take place ++ Char.ofNat (r.nextCode delta) :: r.label.drop place
    code := r.nextCode delta
    index := place + 1
    bias := adapt delta (r.label.length + 1) r.first
    first := false }

/-- The label in the end, if the fuel is enough. -/
def finishWithin (r : Reader) (fuel : Nat) (t : Text) : Option Text :=
  insertAll r.label r.code r.index r.bias r.first fuel t

/-- The label in the end. -/
def finish (r : Reader) (t : Text) : Option Text :=
  r.finishWithin t.length t

theorem finish_nil (r : Reader) : r.finish [] = some r.label := by
  rw [finish, finishWithin, insertAll]

theorem finishWithin_succ (r : Reader) (fuel : Nat) {t : Text} (ht : t ≠ []) :
    r.finishWithin (fuel + 1) t = (readNumber? r.bias base 1 0 t).bind fun (delta, rest) =>
      if (r.nextCode delta).isValidChar then (r.insert delta).finishWithin fuel rest else none := by
  cases t with
  | nil => exact absurd rfl ht
  | cons c t => rfl

/-- As much fuel as there are characters is enough. -/
theorem finishWithin_eq {fuel : Nat} {t : Text} (hfuel : t.length ≤ fuel) (r : Reader) :
    r.finishWithin fuel t = r.finish t := by
  induction fuel using Nat.strongRecOn generalizing r t with
  | ind fuel ih =>
      rw [finish]
      cases t with
      | nil => rw [finishWithin, finishWithin, insertAll, insertAll]
      | cons c t =>
          obtain ⟨less, rfl⟩ : ∃ less, fuel = less + 1 := ⟨fuel - 1, by
            rw [List.length_cons] at hfuel
            omega⟩
          have hne : c :: t ≠ [] := List.cons_ne_nil c t
          rw [List.length_cons, finishWithin_succ r less hne, finishWithin_succ r t.length hne]
          cases hread : readNumber? r.bias base 1 0 (c :: t) with
          | none => rfl
          | some number =>
              obtain ⟨delta, rest⟩ := number
              have hshorter : rest.length < t.length + 1 := length_lt_of_readNumber? hread
              -- a number takes a character at least, so both sides have fuel for the rest
              have hless : t.length + 1 ≤ less + 1 := hfuel
              rw [Option.bind_some, Option.bind_some]
              dsimp only
              rw [ih less (by omega) (by omega), ← ih t.length (by omega) (by omega)]

/-- A distance is read and its character put in. -/
theorem finish_writeNumber (r : Reader) {delta : Nat}
    (hvalid : (r.nextCode delta).isValidChar) (rest : Text) :
    r.finish (writeNumber r.bias base delta ++ rest) = (r.insert delta).finish rest := by
  have hread : readNumber? r.bias base 1 0 (writeNumber r.bias base delta ++ rest)
      = some (delta, rest) := by
    rw [readNumber?_writeNumber, Nat.zero_add, Nat.mul_one]
  have hne : writeNumber r.bias base delta ++ rest ≠ [] :=
    List.append_ne_nil_of_left_ne_nil (writeNumber_ne_nil _ _ _) _
  have hshorter := length_lt_of_readNumber? hread
  rw [← finishWithin_eq (Nat.le_succ _), finishWithin_succ r _ hne, hread, Option.bind_some]
  dsimp only
  rw [if_pos hvalid, finishWithin_eq (Nat.le_of_lt hshorter)]

end Reader

/-! ## One pass of the writer -/

/-- What the reader holds after the writer has passed a part of a label for a code point. -/
def heldAfter (n : Nat) (passed rest : Text) : Text :=
  passed.filter (·.toNat ≤ n) ++ rest.filter (·.toNat < n)

/-- The writer for one character. -/
def Writer.step (n : Nat) (w : Writer) (c : Char) : Writer :=
  if c.toNat < n then { w with delta := w.delta + 1 }
  else if c.toNat = n then
    { w with
      written := w.written ++ writeNumber w.bias base w.delta
      delta := 0
      bias := adapt w.delta (w.count + 1) (w.count = w.literals)
      count := w.count + 1 }
  else w

theorem Writer.pass_cons (n : Nat) (w : Writer) (c : Char) (label : Text) :
    w.pass n (c :: label) = (w.step n c).pass n label :=
  rfl

/-- Whether the reader has been told what the writer has written of a label of which a part has been
passed for a code point. -/
structure Follows (n : Nat) (passed rest : Text) (w : Writer) (r : Reader) : Prop where
  /-- The reader holds the characters that have been written. -/
  label_eq : r.label = heldAfter n passed rest
  /-- The writer has counted them. -/
  count_eq : w.count = r.label.length
  /-- The bias is the same on both sides. -/
  bias_eq : w.bias = r.bias
  /-- Both sides know whether a number has been written. -/
  first_eq : r.first = decide (w.count = w.literals)
  /-- The literal characters have been counted. -/
  literals_le : w.literals ≤ w.count
  /-- The reader is not ahead. -/
  code_le : r.code ≤ n
  /-- The distance leads from where the reader stands to where the writer stands. -/
  delta_eq : r.code * (w.count + 1) + r.index + w.delta
    = n * (w.count + 1) + (passed.filter (·.toNat ≤ n)).length

section

variable {n : Nat} {passed rest : Text} {c : Char} {w : Writer} {r : Reader}

theorem passed_append_of_le (hc : c.toNat ≤ n) :
    (passed ++ [c]).filter (·.toNat ≤ n) = passed.filter (·.toNat ≤ n) ++ [c] := by
  simp [hc]

theorem passed_append_of_lt (hc : n < c.toNat) :
    (passed ++ [c]).filter (·.toNat ≤ n) = passed.filter (·.toNat ≤ n) := by
  simp [Nat.not_le.mpr hc]

theorem heldAfter_of_ne (hc : c.toNat ≠ n) :
    heldAfter n (passed ++ [c]) rest = heldAfter n passed (c :: rest) := by
  have hsame : [c].filter (·.toNat ≤ n) = [c].filter (·.toNat < n) :=
    List.filter_congr fun d hd => by
      rw [List.mem_singleton.mp hd]
      exact decide_eq_decide.mpr (by omega)
  rw [heldAfter, heldAfter, List.filter_append, hsame, List.append_assoc, ← List.filter_append]
  rfl

/-- A character of another code point tells the reader nothing. -/
theorem Follows.step_of_ne (h : Follows n passed (c :: rest) w r) (hc : c.toNat ≠ n) :
    Follows n (passed ++ [c]) rest (w.step n c) r := by
  have hheld : heldAfter n passed (c :: rest) = heldAfter n (passed ++ [c]) rest :=
    (heldAfter_of_ne hc).symm
  by_cases hless : c.toNat < n
  · rw [Writer.step, if_pos hless]
    exact
      { h with
        label_eq := h.label_eq.trans hheld
        delta_eq := by
          rw [passed_append_of_le (Nat.le_of_lt hless), List.length_append, ← Nat.add_assoc,
            ← Nat.add_assoc, h.delta_eq]
          rfl }
  · rw [Writer.step, if_neg hless, if_neg hc]
    exact
      { h with
        label_eq := h.label_eq.trans hheld
        delta_eq := by
          rw [passed_append_of_lt (by omega)]
          exact h.delta_eq }

/-- Where the distance leads: to the writer's code point, after what has been passed. -/
theorem Follows.lands (h : Follows n passed rest w r) :
    r.nextCode w.delta = n ∧ (r.index + w.delta) % (r.label.length + 1)
      = (passed.filter (·.toNat ≤ n)).length := by
  have hfits : (passed.filter (·.toNat ≤ n)).length < r.label.length + 1 := by
    rw [h.label_eq, heldAfter, List.length_append]
    omega
  have hdelta := h.delta_eq
  rw [h.count_eq] at hdelta
  have hcode := Nat.sub_add_cancel h.code_le
  have hsum : r.index + w.delta = (passed.filter (·.toNat ≤ n)).length
      + (r.label.length + 1) * (n - r.code) := by
    rw [Nat.mul_comm (r.label.length + 1)]
    have hn : n * (r.label.length + 1)
        = (n - r.code) * (r.label.length + 1) + r.code * (r.label.length + 1) := by
      rw [← Nat.add_mul, hcode]
    omega
  rw [Reader.nextCode, hsum, Nat.add_mul_div_left _ _ (Nat.succ_pos _), Nat.div_eq_of_lt hfits,
    Nat.add_mul_mod_self_left, Nat.mod_eq_of_lt hfits]
  exact ⟨by omega, rfl⟩

/-- A character of the code point is told, and the reader puts it where it stands. -/
theorem Follows.step_of_eq (h : Follows n passed (c :: rest) w r) (hc : c.toNat = n) :
    Follows n (passed ++ [c]) rest (w.step n c) (r.insert w.delta) := by
  obtain ⟨hcode, hplace⟩ := h.lands
  have hpassed : (passed ++ [c]).filter (·.toNat ≤ n) = passed.filter (·.toNat ≤ n) ++ [c] :=
    passed_append_of_le (Nat.le_of_eq hc)
  have hrest : (c :: rest).filter (·.toNat < n) = rest.filter (·.toNat < n) :=
    List.filter_cons_of_neg fun h => by
      have hlt := of_decide_eq_true h
      omega
  have hheld : r.label = passed.filter (·.toNat ≤ n) ++ rest.filter (·.toNat < n) := by
    rw [h.label_eq, heldAfter, hrest]
  have hlabel : (r.insert w.delta).label = heldAfter n (passed ++ [c]) rest := by
    have hchar : Char.ofNat n = c := by
      rw [← hc, Char.ofNat_toNat]
    rw [Reader.insert]
    dsimp only
    rw [hplace, hcode, hchar, hheld, List.take_left, List.drop_left, heldAfter, hpassed,
      List.append_assoc]
    rfl
  have hcount := h.count_eq
  have hliterals := h.literals_le
  rw [Writer.step, if_neg (by omega), if_pos hc]
  exact
    { label_eq := hlabel
      count_eq := by
        rw [hlabel, heldAfter, hpassed]
        dsimp only
        rw [hcount, hheld, List.length_append, List.length_append, List.length_append,
          List.length_singleton]
        omega
      bias_eq := by
        rw [Reader.insert]
        dsimp only
        rw [hcount, ← h.count_eq, h.first_eq]
      first_eq := by
        dsimp only [Reader.insert]
        exact (decide_eq_false (by omega)).symm
      literals_le := by
        dsimp only
        omega
      code_le := Nat.le_of_eq hcode
      delta_eq := by
        dsimp only [Reader.insert]
        rw [hcode, hplace, hpassed, List.length_append]
        rfl }

/-- What a pass writes tells the reader of the characters of its code point. -/
theorem Follows.pass (h : Follows n passed rest w r) :
    ∃ told r', (w.pass n rest).written = w.written ++ told ∧ (∀ d ∈ told, IsDigit d)
      ∧ Follows n (passed ++ rest) [] (w.pass n rest) r'
      ∧ ∀ more, r.finish (told ++ more) = r'.finish more := by
  induction rest generalizing passed w r with
  | nil =>
      rw [List.append_nil]
      exact ⟨[], r, (List.append_nil _).symm, List.forall_mem_nil _, h, fun _ => rfl⟩
  | cons c rest ih =>
      rw [Writer.pass_cons]
      by_cases hc : c.toNat = n
      · obtain ⟨told, r', hwritten, hdigits, hfollows, hfinish⟩ := ih (h.step_of_eq hc)
        refine ⟨writeNumber w.bias base w.delta ++ told, r', ?_, ?_, ?_, fun more => ?_⟩
        · rw [hwritten, ← List.append_assoc, Writer.step, if_neg (by omega), if_pos hc]
        · exact List.forall_mem_append.mpr ⟨fun _ => isDigit_of_mem_writeNumber, hdigits⟩
        · rwa [List.append_assoc] at hfollows
        · have hvalid : (r.nextCode w.delta).isValidChar := by
            rw [h.lands.1, ← hc]
            exact c.valid
          rw [List.append_assoc, h.bias_eq, Reader.finish_writeNumber r hvalid, hfinish]
      · obtain ⟨told, r', hwritten, hdigits, hfollows, hfinish⟩ := ih (h.step_of_ne hc)
        refine ⟨told, r', ?_, hdigits, ?_, hfinish⟩
        · rw [hwritten, Writer.step]
          split
          · rfl
          · rfl
        · rwa [List.append_assoc] at hfollows

end

/-! ## All passes -/

section

variable {n : Nat} {label : Text} {w : Writer} {r : Reader}

/-- After a pass the next code point comes, from the beginning of the label. -/
theorem Follows.next (h : Follows n label [] w r) :
    Follows (n + 1) [] label { w with delta := w.delta + 1 } r := by
  have hheld : heldAfter n label [] = heldAfter (n + 1) [] label := by
    rw [heldAfter, heldAfter, List.filter_nil, List.filter_nil, List.append_nil, List.nil_append]
    exact List.filter_congr fun c _ => decide_eq_decide.mpr Nat.lt_succ_iff.symm
  have hall : (label.filter (·.toNat ≤ n)).length = w.count := by
    rw [h.count_eq, h.label_eq, heldAfter, List.filter_nil, List.append_nil]
  exact
    { h with
      label_eq := h.label_eq.trans hheld
      code_le := Nat.le_succ_of_le h.code_le
      delta_eq := by
        have hdelta := h.delta_eq
        rw [hall] at hdelta
        rw [← Nat.add_assoc, hdelta, Nat.succ_mul]
        rfl }

/-- Code points that the label does not have are passed over at once. -/
theorem Follows.skip (h : Follows n [] label w r) {m : Nat} (hle : n ≤ m)
    (hnone : ∀ c ∈ label, c.toNat < m → c.toNat < n) :
    Follows m [] label { w with delta := w.delta + (m - n) * (w.count + 1) } r := by
  have hheld : heldAfter n [] label = heldAfter m [] label :=
    congrArg ([] ++ ·) (List.filter_congr fun c hc => decide_eq_decide.mpr
      ⟨fun hlt => Nat.lt_of_lt_of_le hlt hle, hnone c hc⟩)
  exact
    { h with
      label_eq := h.label_eq.trans hheld
      code_le := Nat.le_trans h.code_le hle
      delta_eq := by
        have hdelta := h.delta_eq
        have hm : m * (w.count + 1) = n * (w.count + 1) + (m - n) * (w.count + 1) := by
          rw [← Nat.add_mul, Nat.add_sub_cancel' hle]
        rw [List.filter_nil, List.length_nil] at hdelta ⊢
        dsimp only
        omega }

/-- In the end the reader holds the label. -/
theorem Follows.label_eq_self (h : Follows n [] label w r)
    (hnone : label.filter (n ≤ ·.toNat) = []) : r.label = label := by
  rw [h.label_eq, heldAfter, List.filter_nil, List.nil_append, List.filter_eq_self]
  intro c hc
  have hfew := List.filter_eq_nil_iff.mp hnone c hc
  rw [decide_eq_true_eq] at hfew ⊢
  omega

/-- There are fewer characters beyond a code point that the label has. -/
theorem length_filter_after {c : Char} {code : Nat} (hc : c ∈ label) (hcode : c.toNat = code)
    (hle : n ≤ code) :
    (label.filter (code + 1 ≤ ·.toNat)).length < (label.filter (n ≤ ·.toNat)).length := by
  have hwithin : label.filter (code + 1 ≤ ·.toNat)
      = (label.filter (n ≤ ·.toNat)).filter (code + 1 ≤ ·.toNat) := by
    rw [List.filter_filter]
    refine List.filter_congr fun d _ => ?_
    rw [← Bool.decide_and]
    exact decide_eq_decide.mpr (by omega)
  rw [hwithin, List.length_filter_lt_length_iff_exists]
  exact ⟨c, List.mem_filter.mpr ⟨hc, decide_eq_true (hcode ▸ hle)⟩, by
    rw [decide_eq_true_eq, hcode]
    omega⟩

/-- What all passes write tells the reader of the whole label. -/
theorem Follows.passes {fuel : Nat} (h : Follows n [] label w r)
    (hfuel : (label.filter (n ≤ ·.toNat)).length ≤ fuel) :
    ∃ told, Writer.passes label fuel n w = w.written ++ told ∧ (∀ d ∈ told, IsDigit d)
      ∧ r.finish told = some label := by
  induction fuel generalizing n w r with
  | zero =>
      have hnone := List.eq_nil_of_length_eq_zero (Nat.le_zero.mp hfuel)
      refine ⟨[], (List.append_nil _).symm, List.forall_mem_nil _, ?_⟩
      rw [Reader.finish_nil, h.label_eq_self hnone]
  | succ fuel ih =>
      rw [Writer.passes]
      split
      · next hnone =>
          refine ⟨[], (List.append_nil _).symm, List.forall_mem_nil _, ?_⟩
          rw [Reader.finish_nil, h.label_eq_self (List.map_eq_nil_iff.mp hnone)]
      · next m more hcodes =>
          dsimp only
          -- the next code point is the least one that has not been written
          have hmin : (m :: more).min? = some (more.foldl min m) := List.min?_cons'
          generalize more.foldl min m = next at hmin ⊢
          obtain ⟨hmem, hleast⟩ := List.min?_eq_some_iff.mp hmin
          rw [← hcodes] at hmem hleast
          obtain ⟨c, hc, hcode⟩ := List.mem_map.mp hmem
          obtain ⟨hlabel, hreached⟩ := List.mem_filter.mp hc
          have hle : n ≤ next := hcode ▸ of_decide_eq_true hreached
          have hnone : ∀ d ∈ label, d.toNat < next → d.toNat < n := by
            intro d hd hlt
            refine Nat.lt_of_not_le fun hnd => Nat.not_lt.mpr ?_ hlt
            exact hleast d.toNat (List.mem_map.mpr
              ⟨d, List.mem_filter.mpr ⟨hd, decide_eq_true hnd⟩, rfl⟩)
          have hfewer := length_filter_after hlabel hcode hle
          obtain ⟨told, r', hwritten, hdigits, hfollows, hfinish⟩ := (h.skip hle hnone).pass
          obtain ⟨more, hmore, hothers, hdone⟩ := ih hfollows.next (by omega)
          refine ⟨told ++ more, ?_, List.forall_mem_append.mpr ⟨hdigits, hothers⟩, ?_⟩
          · rw [hmore]
            dsimp only
            rw [hwritten, List.append_assoc]
          · rw [hfinish, hdone]

end

/-! ## Whole labels -/

/-- The characters of a label that are written literally. -/
def literals (label : Text) : Text :=
  label.filter (·.toNat < firstCode)

/-- What stands before the numbers of a label. -/
def opening (label : Text) : Text :=
  if (literals label).isEmpty then [] else literals label ++ ['-']

/-- An encoded label: its literal characters and, after a hyphen, digits that tell of the others. -/
theorem encode_spec (label : Text) :
    ∃ told, encode label = opening label ++ told ∧ (∀ d ∈ told, IsDigit d)
      ∧ insertAll (literals label) firstCode 0 72 true told.length told = some label := by
  have hstart : Follows firstCode [] label
      { written := opening label, delta := 0, bias := 72, count := (literals label).length
        literals := (literals label).length }
      { label := literals label, code := firstCode, index := 0, bias := 72, first := true } :=
    { label_eq := rfl
      count_eq := rfl
      bias_eq := rfl
      first_eq := (decide_eq_true rfl).symm
      literals_le := Nat.le_refl _
      code_le := Nat.le_refl _
      delta_eq := rfl }
  exact hstart.passes (List.length_filter_le _ _)

theorem opening_cases (label : Text) :
    (literals label = [] ∧ opening label = [])
      ∨ ((literals label).isEmpty = false ∧ opening label = literals label ++ ['-']) := by
  unfold opening
  cases literals label with
  | nil => exact .inl ⟨rfl, rfl⟩
  | cons c more => exact .inr ⟨rfl, rfl⟩

/-- The numbers of a label are what follows its last hyphen. -/
theorem afterHyphen (label : Text) {told : Text} (htold : ∀ d ∈ told, IsDigit d) :
    ((opening label ++ told).reverse.takeWhile (· ≠ '-')).reverse = told := by
  refine afterLast (fun hmem => ?_) ?_
  · exact (htold '-' hmem).forall_of (P := (· ≠ '-')) (by decide) rfl
  · rcases opening_cases label with ⟨-, hopening⟩ | ⟨-, hopening⟩
    · exact .inl hopening
    · exact .inr ⟨_, hopening⟩

theorem beforeHyphen (label told : Text) :
    (opening label ++ told).take ((opening label ++ told).length - told.length - 1)
      = literals label := by
  rw [List.length_append, Nat.add_sub_cancel]
  rcases opening_cases label with ⟨hliterals, hopening⟩ | ⟨-, hopening⟩
  · rw [hopening, hliterals]
    rfl
  · rw [hopening, List.length_append, List.length_singleton, Nat.add_sub_cancel, List.append_assoc,
      List.take_left]

/-- An encoded label is decoded to the label. -/
theorem decode?_encode (label : Text) : decode? (encode label) = some label := by
  obtain ⟨told, hencode, hdigits, hinsert⟩ := encode_spec label
  have hplain : (literals label).all (·.toNat < firstCode) = true :=
    List.all_eq_true.mpr fun c hc => (List.mem_filter.mp hc).2
  have hnumbers : (if (literals label).isEmpty then opening label ++ told else told) = told := by
    rcases opening_cases label with ⟨hliterals, hopening⟩ | ⟨hliterals, -⟩
    · rw [hopening, hliterals]
      rfl
    · rw [hliterals]
      rfl
  rw [decode?, hencode, afterHyphen label hdigits, beforeHyphen, if_pos hplain, hnumbers]
  exact hinsert

/-- What an encoded label is made of: its literal characters, hyphens and digits. -/
theorem mem_encode {label : Text} {c : Char} (hc : c ∈ encode label) :
    (c ∈ label ∧ c.toNat < firstCode) ∨ c = '-' ∨ IsDigit c := by
  obtain ⟨told, hencode, hdigits, -⟩ := encode_spec label
  rw [hencode, List.mem_append] at hc
  rcases hc with hopening | htold
  · unfold opening at hopening
    split at hopening
    · cases hopening
    · rcases List.mem_append.mp hopening with hliteral | hhyphen
      · obtain ⟨hmem, hless⟩ := List.mem_filter.mp hliteral
        exact .inl ⟨hmem, of_decide_eq_true hless⟩
      · exact .inr (.inl (List.mem_singleton.mp hhyphen))
  · exact .inr (.inr (hdigits c htold))

/-! ## What is decoded -/

theorem mem_insertAll {label t result : Text} {n index bias fuel : Nat} {first : Bool}
    (hresult : insertAll label n index bias first fuel t = some result) :
    ∀ c ∈ result, c ∈ label ∨ n ≤ c.toNat := by
  induction fuel generalizing label n index bias first t with
  | zero =>
      cases t with
      | nil =>
          cases hresult
          exact fun c hc => .inl hc
      | cons d t => cases hresult
  | succ fuel ih =>
      cases t with
      | nil =>
          cases hresult
          exact fun c hc => .inl hc
      | cons d t =>
          rw [insertAll] at hresult
          · obtain ⟨⟨delta, rest⟩, -, hmore⟩ := Option.bind_eq_some_iff.mp hresult
            dsimp only at hmore
            obtain ⟨hvalid, hmore⟩ := Option.ite_none_right_eq_some.mp hmore
            -- the code point never falls
            have hcode : n ≤ n + (index + delta) / (label.length + 1) := Nat.le_add_right _ _
            intro c hc
            rcases ih hmore c hc with hlabel | hlater
            · rcases List.mem_append.mp hlabel with hbefore | hafter
              · exact .inl (List.mem_of_mem_take hbefore)
              · rcases List.mem_cons.mp hafter with rfl | hafter
                · refine .inr ?_
                  rw [Utf8.toNat_ofNat_scalar hvalid]
                  exact hcode
                · exact .inl (List.mem_of_mem_drop hafter)
            · exact .inr (Nat.le_trans hcode hlater)
          · exact List.cons_ne_nil _ _

/-- The characters of ASCII in a decoded label stand in what has been decoded. -/
theorem mem_of_decode? {t label : Text} (hdecode : decode? t = some label) {c : Char}
    (hc : c ∈ label) : c ∈ t ∨ firstCode ≤ c.toNat := by
  rw [decode?] at hdecode
  obtain ⟨-, hinsert⟩ := Option.ite_none_right_eq_some.mp hdecode
  rcases mem_insertAll hinsert c hc with hliteral | hlarge
  · exact .inl (List.mem_of_mem_take hliteral)
  · exact .inr hlarge

end OperatorNames.Domain.Punycode
