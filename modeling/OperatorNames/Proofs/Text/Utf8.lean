import OperatorNames.Text.Utf8

/-!
# The reader and the writer of UTF-8

The reader is a machine that takes one octet at a time.  Here it is held to the writer: a run of
octets is read as a text exactly when it is what the writer makes of that text
(`decode_eq_some_iff`), and the writer is the one of the standard library, so that the reader
accepts what the standard library accepts (`decode_eq_utf8Decode?`).

The last part counts octets below 0x80: each stands for the character of its number and for
nothing else.
-/

namespace OperatorNames.Text.Utf8

/-- The code point of a character is no surrogate and below the end of the code space. -/
theorem toNat_scalar (c : Char) :
    c.toNat < 0xD800 ∨ 0xDFFF < c.toNat ∧ c.toNat < 0x110000 :=
  c.valid

theorem toNat_ofNat_scalar {n : Nat} (h : n < 0xD800 ∨ 0xDFFF < n ∧ n < 0x110000) :
    (Char.ofNat n).toNat = n := by
  have hvalid : n.isValidChar := h
  rw [Char.ofNat, dif_pos hvalid]
  rfl

theorem toNat_octet {n : Nat} (h : n < 256) : n.toUInt8.toNat = n := by
  simp [Nat.toUInt8, Nat.mod_eq_of_lt h]

/-! ## One octet at a time -/

theorem step_ascii {done : Text} {octet : UInt8} (h : octet.toNat < 0x80) :
    State.step { done } octet = some { done := Char.ofNat octet.toNat :: done } := by
  simp [State.step, h]

/-- The first octet of a character of two octets. -/
theorem step_two {done : Text} {octet : UInt8} (hlow : 0xC2 ≤ octet.toNat)
    (hhigh : octet.toNat < 0xE0) :
    State.step { done } octet =
      some { done, owed := 1, low := 0x80, high := 0xBF, value := octet.toNat - 0xC0 } := by
  simp only [State.step]
  generalize octet.toNat = n at *
  rw [if_neg (by omega), if_neg (by omega), if_pos hhigh]
  rfl

/-- The first octet of a character of three octets. -/
theorem step_three {done : Text} {octet : UInt8} (hlow : 0xE0 ≤ octet.toNat)
    (hhigh : octet.toNat < 0xF0) :
    State.step { done } octet =
      some { done, owed := 2, low := if octet.toNat = 0xE0 then 0xA0 else 0x80,
             high := if octet.toNat = 0xED then 0x9F else 0xBF, value := octet.toNat - 0xE0 } := by
  simp only [State.step]
  generalize octet.toNat = n at *
  rw [if_neg (by omega), if_neg (by omega), if_neg (by omega)]
  -- the two first octets of which the second is bounded more tightly than by 0x80 and 0xBF
  by_cases he0 : n = 0xE0
  · subst he0
    rfl
  by_cases hed : n = 0xED
  · subst hed
    rfl
  rw [if_neg he0, if_neg hed, if_pos hhigh, if_neg he0, if_neg hed]
  rfl

/-- The first octet of a character of four octets. -/
theorem step_four {done : Text} {octet : UInt8} (hlow : 0xF0 ≤ octet.toNat)
    (hhigh : octet.toNat ≤ 0xF4) :
    State.step { done } octet =
      some { done, owed := 3, low := if octet.toNat = 0xF0 then 0x90 else 0x80,
             high := if octet.toNat = 0xF4 then 0x8F else 0xBF, value := octet.toNat - 0xF0 } := by
  simp only [State.step]
  generalize octet.toNat = n at *
  rw [if_neg (by omega), if_neg (by omega), if_neg (by omega), if_neg (by omega),
    if_neg (by omega), if_neg (by omega)]
  -- the same for the first octets of four
  by_cases hf0 : n = 0xF0
  · subst hf0
    rfl
  by_cases hf4 : n = 0xF4
  · subst hf4
    rfl
  rw [if_neg hf0, if_pos (by omega), if_neg hf0, if_neg hf4]
  rfl

/-- No other octet starts a character. -/
theorem step_stray {done : Text} {octet : UInt8} (hlow : 0x80 ≤ octet.toNat)
    (h : octet.toNat < 0xC2 ∨ 0xF4 < octet.toNat) : State.step { done } octet = none := by
  simp only [State.step]
  generalize octet.toNat = n at *
  rw [if_neg (by omega)]
  rcases h with hshort | hlong
  · rw [if_pos hshort]
  · rw [if_neg (by omega), if_neg (by omega), if_neg (by omega), if_neg (by omega),
      if_neg (by omega), if_neg (by omega), if_neg (by omega), if_neg (by omega)]

/-- The octet that completes a character. -/
theorem step_last {s : State} {octet : UInt8} (howed : s.owed = 1)
    (hlow : s.low ≤ octet.toNat) (hhigh : octet.toNat ≤ s.high) :
    s.step octet = some { done := Char.ofNat (s.value * 64 + (octet.toNat - 0x80)) :: s.done } := by
  simp [State.step, howed, hlow, hhigh]

/-- An octet within a character that does not complete it. -/
theorem step_inner {s : State} {octet : UInt8} (owed : Nat) (howed : s.owed = owed + 2)
    (hlow : s.low ≤ octet.toNat) (hhigh : octet.toNat ≤ s.high) :
    s.step octet =
      some { done := s.done, owed := owed + 1, low := 0x80, high := 0xBF
             value := s.value * 64 + (octet.toNat - 0x80) } := by
  simp [State.step, howed, hlow, hhigh, State.enter]

/-- An octet within a character that lies outside the range asked for. -/
theorem step_outside {s : State} {octet : UInt8} {owed : Nat} (howed : s.owed = owed + 1)
    (h : ¬ (s.low ≤ octet.toNat ∧ octet.toNat ≤ s.high)) : s.step octet = none := by
  simp [State.step, howed, h]

/-! ## One character at a time -/

theorem foldlM_encodeChar (done : Text) (c : Char) :
    (encodeChar c).foldlM State.step { done } = some { done := c :: done } := by
  have hscalar := toNat_scalar c
  have hback : Char.ofNat c.toNat = c := Char.ofNat_toNat c
  unfold encodeChar
  generalize c.toNat = n at *
  -- by the number of octets, in the order in which the writer asks for it
  by_cases h1 : n < 0x80
  · have ho := toNat_octet (show n < 256 by omega)
    simp only [h1, if_true, List.foldlM_cons, List.foldlM_nil]
    rw [step_ascii (by omega), ho, hback]
    rfl
  by_cases h2 : n < 0x800
  · have ho := toNat_octet (show 0xC0 + n / 64 < 256 by omega)
    have hp := toNat_octet (show 0x80 + n % 64 < 256 by omega)
    simp only [h1, h2, if_true, if_false, List.foldlM_cons, List.foldlM_nil]
    rw [step_two (by omega) (by omega)]
    change (State.step _ _).bind _ = _
    rw [step_last rfl (show 0x80 ≤ _ by omega) (show _ ≤ 0xBF by omega), ho, hp]
    have hvalue : (0xC0 + n / 64 - 0xC0) * 64 + (0x80 + n % 64 - 0x80) = n := by omega
    rw [hvalue, hback]
    rfl
  by_cases h3 : n < 0x10000
  · have ho := toNat_octet (show 0xE0 + n / 4096 < 256 by omega)
    have hp := toNat_octet (show 0x80 + n / 64 % 64 < 256 by omega)
    have hq := toNat_octet (show 0x80 + n % 64 < 256 by omega)
    simp only [h1, h2, h3, if_true, if_false, List.foldlM_cons, List.foldlM_nil]
    rw [step_three (by omega) (by omega)]
    change (State.step _ _).bind _ = _
    rw [step_inner 0 rfl (show ite _ _ _ ≤ _ by split <;> omega)
      (show _ ≤ ite _ _ _ by split <;> omega)]
    change (State.step _ _).bind _ = _
    rw [step_last rfl (show 0x80 ≤ _ by omega) (show _ ≤ 0xBF by omega), ho, hp, hq]
    have hvalue : ((0xE0 + n / 4096 - 0xE0) * 64 + (0x80 + n / 64 % 64 - 0x80)) * 64 +
        (0x80 + n % 64 - 0x80) = n := by omega
    rw [hvalue, hback]
    rfl
  · have ho := toNat_octet (show 0xF0 + n / 262144 < 256 by omega)
    have hp := toNat_octet (show 0x80 + n / 4096 % 64 < 256 by omega)
    have hq := toNat_octet (show 0x80 + n / 64 % 64 < 256 by omega)
    have hr := toNat_octet (show 0x80 + n % 64 < 256 by omega)
    simp only [h1, h2, h3, if_false, List.foldlM_cons, List.foldlM_nil]
    rw [step_four (by omega) (by omega)]
    change (State.step _ _).bind _ = _
    rw [step_inner 1 rfl (show ite _ _ _ ≤ _ by split <;> omega)
      (show _ ≤ ite _ _ _ by split <;> omega)]
    change (State.step _ _).bind _ = _
    rw [step_inner 0 rfl (show 0x80 ≤ _ by omega) (show _ ≤ 0xBF by omega)]
    change (State.step _ _).bind _ = _
    rw [step_last rfl (show 0x80 ≤ _ by omega) (show _ ≤ 0xBF by omega), ho, hp, hq, hr]
    have hvalue : (((0xF0 + n / 262144 - 0xF0) * 64 + (0x80 + n / 4096 % 64 - 0x80)) * 64 +
        (0x80 + n / 64 % 64 - 0x80)) * 64 + (0x80 + n % 64 - 0x80) = n := by omega
    rw [hvalue, hback]
    rfl

/-- A reader within a character that comes to its end has one more octet before it, in the range
asked for. -/
theorem exists_octet_of_owed {s final : State} {b : Bytes} {owed : Nat} (howed : s.owed = owed + 1)
    (hread : b.foldlM State.step s = some final) (hfinal : final.owed = 0) :
    ∃ octet rest, b = octet :: rest ∧ s.low ≤ octet.toNat ∧ octet.toNat ≤ s.high ∧
      (s.step octet).bind (fun next => rest.foldlM State.step next) = some final := by
  cases b with
  | nil =>
      simp only [List.foldlM_nil, Option.pure_def, Option.some.injEq] at hread
      subst hread
      omega
  | cons octet rest =>
      rw [List.foldlM_cons] at hread
      by_cases hrange : s.low ≤ octet.toNat ∧ octet.toNat ≤ s.high
      · exact ⟨octet, rest, rfl, hrange.1, hrange.2, hread⟩
      · rw [step_outside howed hrange] at hread
        cases hread

theorem toUInt8_eq {n : Nat} (octet : UInt8) (h : n = octet.toNat) : n.toUInt8 = octet := by
  subst h
  simp [Nat.toUInt8]

theorem encodeChar_ofNat_one {o : UInt8} (h : o.toNat < 0x80) :
    encodeChar (Char.ofNat o.toNat) = [o] := by
  unfold encodeChar
  rw [toNat_ofNat_scalar (by omega)]
  simp only [h, if_true]
  rw [toUInt8_eq o rfl]

theorem encodeChar_ofNat_two {o p : UInt8} (ho : 0xC2 ≤ o.toNat) (ho' : o.toNat < 0xE0)
    (hp : 0x80 ≤ p.toNat) (hp' : p.toNat ≤ 0xBF) :
    encodeChar (Char.ofNat ((o.toNat - 0xC0) * 64 + (p.toNat - 0x80))) = [o, p] := by
  unfold encodeChar
  rw [toNat_ofNat_scalar (by omega)]
  dsimp only
  rw [if_neg (by omega), if_pos (by omega), toUInt8_eq o (by omega),
    toUInt8_eq p (by omega)]

theorem encodeChar_ofNat_three {o p q : UInt8} (ho : 0xE0 ≤ o.toNat) (ho' : o.toNat < 0xF0)
    (hp : (if o.toNat = 0xE0 then 0xA0 else 0x80) ≤ p.toNat)
    (hp' : p.toNat ≤ if o.toNat = 0xED then 0x9F else 0xBF)
    (hq : 0x80 ≤ q.toNat) (hq' : q.toNat ≤ 0xBF) :
    encodeChar (Char.ofNat (((o.toNat - 0xE0) * 64 + (p.toNat - 0x80)) * 64 + (q.toNat - 0x80)))
      = [o, p, q] := by
  have hlow : 0x80 ≤ p.toNat := by split at hp <;> omega
  have hhigh : p.toNat ≤ 0xBF := by split at hp' <;> omega
  have hstart : o.toNat = 0xE0 → 0xA0 ≤ p.toNat := fun h => by rwa [if_pos h] at hp
  have hend : o.toNat = 0xED → p.toNat ≤ 0x9F := fun h => by rwa [if_pos h] at hp'
  clear hp hp'
  unfold encodeChar
  rw [toNat_ofNat_scalar (by omega)]
  dsimp only
  rw [if_neg (by omega), if_neg (by omega), if_pos (by omega), toUInt8_eq o (by omega),
    toUInt8_eq p (by omega), toUInt8_eq q (by omega)]

theorem encodeChar_ofNat_four {o p q r : UInt8} (ho : 0xF0 ≤ o.toNat) (ho' : o.toNat ≤ 0xF4)
    (hp : (if o.toNat = 0xF0 then 0x90 else 0x80) ≤ p.toNat)
    (hp' : p.toNat ≤ if o.toNat = 0xF4 then 0x8F else 0xBF)
    (hq : 0x80 ≤ q.toNat) (hq' : q.toNat ≤ 0xBF) (hr : 0x80 ≤ r.toNat) (hr' : r.toNat ≤ 0xBF) :
    encodeChar (Char.ofNat ((((o.toNat - 0xF0) * 64 + (p.toNat - 0x80)) * 64 +
      (q.toNat - 0x80)) * 64 + (r.toNat - 0x80))) = [o, p, q, r] := by
  have hlow : 0x80 ≤ p.toNat := by split at hp <;> omega
  have hhigh : p.toNat ≤ 0xBF := by split at hp' <;> omega
  have hstart : o.toNat = 0xF0 → 0x90 ≤ p.toNat := fun h => by rwa [if_pos h] at hp
  have hend : o.toNat = 0xF4 → p.toNat ≤ 0x8F := fun h => by rwa [if_pos h] at hp'
  clear hp hp'
  unfold encodeChar
  rw [toNat_ofNat_scalar (by omega)]
  dsimp only
  rw [if_neg (by omega), if_neg (by omega), if_neg (by omega), toUInt8_eq o (by omega),
    toUInt8_eq p (by omega), toUInt8_eq q (by omega),
    toUInt8_eq r (by omega)]

/-- What the reader takes from between two characters up to between two others is the encoding of
the characters that it adds. -/
theorem exists_text_of_foldlM {b : Bytes} {done : Text} {final : State}
    (hread : b.foldlM State.step { done } = some final) (hfinal : final.owed = 0) :
    ∃ t, b = encode t ∧ final = { done := t.reverse ++ done } := by
  cases b with
  | nil =>
      simp only [List.foldlM_nil, Option.pure_def, Option.some.injEq] at hread
      exact ⟨[], rfl, hread.symm⟩
  | cons o rest =>
      rw [List.foldlM_cons] at hread
      -- The first octet tells how many octets the character has.  Each of the others is obtained from
      -- `hfinal`: the reader could not have stopped within the character.
      by_cases h1 : o.toNat < 0x80
      · rw [step_ascii h1] at hread
        obtain ⟨t, hrest, hdone⟩ := exists_text_of_foldlM hread hfinal
        refine ⟨Char.ofNat o.toNat :: t, ?_, by simp [hdone]⟩
        rw [encode, List.flatMap_cons, encodeChar_ofNat_one h1, hrest]
        rfl
      -- neither a continuation nor an overlong start nor one beyond the code space
      by_cases hstray : o.toNat < 0xC2 ∨ 0xF4 < o.toNat
      · rw [step_stray (by omega) hstray] at hread
        cases hread
      by_cases h2 : o.toNat < 0xE0
      · rw [step_two (by omega) h2] at hread
        obtain ⟨p, rest, rfl, hp, hp', hread⟩ := exists_octet_of_owed rfl hread hfinal
        rw [step_last rfl hp hp'] at hread
        obtain ⟨t, hrest, hdone⟩ := exists_text_of_foldlM hread hfinal
        refine ⟨_ :: t, ?_, by simp [hdone]; rfl⟩
        rw [encode, List.flatMap_cons, encodeChar_ofNat_two (by omega) h2 hp hp', hrest]
        rfl
      by_cases h3 : o.toNat < 0xF0
      · rw [step_three (by omega) h3] at hread
        obtain ⟨p, rest, rfl, hp, hp', hread⟩ := exists_octet_of_owed rfl hread hfinal
        rw [step_inner 0 rfl hp hp'] at hread
        obtain ⟨q, rest, rfl, hq, hq', hread⟩ := exists_octet_of_owed rfl hread hfinal
        rw [step_last rfl hq hq'] at hread
        obtain ⟨t, hrest, hdone⟩ := exists_text_of_foldlM hread hfinal
        refine ⟨_ :: t, ?_, by simp [hdone]; rfl⟩
        rw [encode, List.flatMap_cons, encodeChar_ofNat_three (by omega) h3 hp hp' hq hq', hrest]
        rfl
      · rw [step_four (by omega) (by omega)] at hread
        obtain ⟨p, rest, rfl, hp, hp', hread⟩ := exists_octet_of_owed rfl hread hfinal
        rw [step_inner 1 rfl hp hp'] at hread
        obtain ⟨q, rest, rfl, hq, hq', hread⟩ := exists_octet_of_owed rfl hread hfinal
        rw [step_inner 0 rfl hq hq'] at hread
        obtain ⟨r, rest, rfl, hr, hr', hread⟩ := exists_octet_of_owed rfl hread hfinal
        rw [step_last rfl hr hr'] at hread
        obtain ⟨t, hrest, hdone⟩ := exists_text_of_foldlM hread hfinal
        refine ⟨_ :: t, ?_, by simp [hdone]; rfl⟩
        rw [encode, List.flatMap_cons,
          encodeChar_ofNat_four (by omega) (by omega) hp hp' hq hq' hr hr', hrest]
        rfl
termination_by b.length

theorem foldlM_encode (done t : Text) :
    (encode t).foldlM State.step { done } = some { done := t.reverse ++ done } := by
  induction t generalizing done with
  | nil => rfl
  | cons c t ih =>
      rw [encode, List.flatMap_cons, List.foldlM_append, foldlM_encodeChar]
      change (encode t).foldlM State.step { done := c :: done } = _
      rw [ih]
      simp

theorem decode_encode (t : Text) : decode (encode t) = some t := by
  unfold decode
  rw [foldlM_encode]
  simp

/-- The reader accepts exactly what the writer produces, and reads it back. -/
theorem decode_eq_some_iff {b : Bytes} {t : Text} : decode b = some t ↔ b = encode t := by
  constructor
  · intro h
    unfold decode at h
    split at h
    · rename_i done low high value hread
      obtain ⟨t', hb, hdone⟩ := exists_text_of_foldlM hread rfl
      cases hdone
      simp only [List.append_nil, List.reverse_reverse, Option.some.injEq] at h
      rw [hb, h]
    · cases h
  · rintro rfl
    exact decode_encode t

/-! ## The standard library's UTF-8 -/

theorem encodeChar_eq_utf8EncodeChar (c : Char) : encodeChar c = String.utf8EncodeChar c := by
  have hscalar := toNat_scalar c
  have hval : c.val.toNat = c.toNat := rfl
  unfold encodeChar String.utf8EncodeChar
  simp only [hval]
  generalize c.toNat = n at *
  by_cases h1 : n < 0x80
  · rw [if_pos h1, if_pos (show n ≤ 0x7F by omega)]
  rw [if_neg h1, if_neg (show ¬ n ≤ 0x7F by omega)]
  by_cases h2 : n < 0x800
  · rw [if_pos h2, if_pos (show n ≤ 0x7FF by omega), Nat.mod_eq_of_lt (show n / 64 < 0x20 by omega),
      Nat.add_comm (n / 64), Nat.add_comm (n % 64)]
  rw [if_neg h2, if_neg (show ¬ n ≤ 0x7FF by omega)]
  by_cases h3 : n < 0x10000
  · rw [if_pos h3, if_pos (show n ≤ 0xFFFF by omega),
      Nat.mod_eq_of_lt (show n / 4096 < 0x10 by omega), Nat.add_comm (n / 4096),
      Nat.add_comm (n / 64 % 64), Nat.add_comm (n % 64)]
  · rw [if_neg h3, if_neg (show ¬ n ≤ 0xFFFF by omega),
      Nat.mod_eq_of_lt (show n / 262144 < 0x08 by omega), Nat.add_comm (n / 262144),
      Nat.add_comm (n / 4096 % 64), Nat.add_comm (n / 64 % 64), Nat.add_comm (n % 64)]

theorem toByteArray_encode (t : Text) : (encode t).toByteArray = t.utf8Encode := by
  have hchar : encodeChar = String.utf8EncodeChar := funext encodeChar_eq_utf8EncodeChar
  rw [encode, hchar]
  rfl

/-- The reader gives what the standard library reads. -/
theorem decode_eq_utf8Decode? (b : Bytes) :
    decode b = b.toByteArray.utf8Decode?.map Array.toList := by
  cases hdecode : decode b with
  | some t =>
      rw [decode_eq_some_iff.1 hdecode, toByteArray_encode, List.utf8Decode?_utf8Encode]
      rfl
  | none =>
      cases hstandard : b.toByteArray.utf8Decode? with
      | none => rfl
      | some u =>
          -- what the standard library reads is an encoding, so that the reader accepts it as well
          have hvalid : b.toByteArray.IsValidUTF8 := by
            rw [← ByteArray.isSome_utf8Decode?_iff, hstandard]
            rfl
          obtain ⟨t, ht⟩ := hvalid
          rw [← toByteArray_encode, List.toByteArray_inj] at ht
          rw [decode_eq_some_iff.2 ht] at hdecode
          cases hdecode

/-! ## Octets of ASCII characters -/

theorem encode_append (t u : Text) : encode (t ++ u) = encode t ++ encode u := by
  simp [encode]

/-- Every octet of a character beyond ASCII lies beyond ASCII. -/
theorem le_toNat_of_mem_encodeChar {c : Char} (hc : 0x80 ≤ c.toNat) {octet : UInt8}
    (h : octet ∈ encodeChar c) : 0x80 ≤ octet.toNat := by
  have hscalar := toNat_scalar c
  unfold encodeChar at h
  generalize c.toNat = n at *
  dsimp only at h
  rw [if_neg (by omega)] at h
  have hoctet : ∃ m, 0x80 ≤ m ∧ m < 256 ∧ octet = m.toUInt8 := by
    split at h
    · simp only [List.mem_cons, List.not_mem_nil, or_false] at h
      rcases h with rfl | rfl
      · exact ⟨_, by omega, by omega, rfl⟩
      · exact ⟨_, by omega, by omega, rfl⟩
    · split at h
      · simp only [List.mem_cons, List.not_mem_nil, or_false] at h
        rcases h with rfl | rfl | rfl
        · exact ⟨_, by omega, by omega, rfl⟩
        · exact ⟨_, by omega, by omega, rfl⟩
        · exact ⟨_, by omega, by omega, rfl⟩
      · simp only [List.mem_cons, List.not_mem_nil, or_false] at h
        rcases h with rfl | rfl | rfl | rfl
        · exact ⟨_, by omega, by omega, rfl⟩
        · exact ⟨_, by omega, by omega, rfl⟩
        · exact ⟨_, by omega, by omega, rfl⟩
        · exact ⟨_, by omega, by omega, rfl⟩
  -- every octet of a longer character is a number between 0x80 and 0xFF
  obtain ⟨m, hlow, hhigh, rfl⟩ := hoctet
  rw [toNat_octet hhigh]
  exact hlow

theorem count_encodeChar {octet : UInt8} (h : octet.toNat < 0x80) (c : Char) :
    (encodeChar c).count octet = if c = Char.ofNat octet.toNat then 1 else 0 := by
  by_cases hc : c.toNat < 0x80
  · have hencode : encodeChar c = [c.toNat.toUInt8] := by
      unfold encodeChar
      dsimp only
      rw [if_pos hc]
    have hiff : c.toNat.toUInt8 = octet ↔ c = Char.ofNat octet.toNat := by
      constructor
      · rintro rfl
        rw [toNat_octet (by omega), Char.ofNat_toNat]
      · rintro rfl
        exact toUInt8_eq octet (toNat_ofNat_scalar (by omega))
    rw [hencode, List.count_singleton]
    simp only [beq_iff_eq, hiff]
  · have hne : c ≠ Char.ofNat octet.toNat := by
      rintro rfl
      rw [toNat_ofNat_scalar (by omega)] at hc
      exact hc h
    rw [if_neg hne, List.count_eq_zero]
    intro hmem
    have := le_toNat_of_mem_encodeChar (by omega) hmem
    omega

/-- An octet below 0x80 occurs in an encoding as often as its character in the text. -/
theorem count_encode {octet : UInt8} (h : octet.toNat < 0x80) (t : Text) :
    (encode t).count octet = t.count (Char.ofNat octet.toNat) := by
  induction t with
  | nil => rfl
  | cons c t ih =>
      have hcons : encode (c :: t) = encodeChar c ++ encode t := by simp [encode]
      rw [hcons, List.count_append, count_encodeChar h, ih, List.count_cons]
      simp only [beq_iff_eq]
      omega

end OperatorNames.Text.Utf8
