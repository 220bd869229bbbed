import OperatorNames.Sha256
import OperatorNames.Proofs.Sha256.Standard

/-!
# The digest is the standard one

Octets go over to bits, words of 32 bits to words, and each part of the computation to the part of
the standard that it carries out: padding, the words of a block, the schedule, the rounds and the
octets of the result.
-/

namespace OperatorNames.Sha256

open Standard (Word Value bitsOf bitsOfNat natOfBits)

/-- The words of the chain as those of a hash value. -/
def Chain.value (s : Chain) : Value :=
  ⟨s.a.toBitVec, s.b.toBitVec, s.c.toBitVec, s.d.toBitVec, s.e.toBitVec, s.f.toBitVec,
    s.g.toBitVec, s.h.toBitVec⟩

section Bits

theorem bitsOf_append (b c : Bytes) : bitsOf (b ++ c) = bitsOf b ++ bitsOf c :=
  List.flatMap_append

theorem bitsOf_cons (o : UInt8) (b : Bytes) : bitsOf (o :: b) = bitsOfNat o.toNat 8 ++ bitsOf b :=
  rfl

@[simp] theorem length_bitsOfNat (n width : Nat) : (bitsOfNat n width).length = width := by
  induction width with
  | zero => rfl
  | succ width ih => rw [bitsOfNat, List.length_cons, ih]

@[simp] theorem length_bitsOf (b : Bytes) : (bitsOf b).length = 8 * b.length := by
  induction b with
  | nil => rfl
  | cons o b ih =>
      rw [bitsOf_cons, List.length_append, length_bitsOfNat, ih, List.length_cons]
      omega

theorem bitsOf_drop (b : Bytes) (n : Nat) : bitsOf (b.drop n) = (bitsOf b).drop (8 * n) := by
  induction n generalizing b with
  | zero => rfl
  | succ n ih =>
      cases b with
      | nil => simp [bitsOf]
      | cons o b =>
          rw [List.drop_succ_cons, ih, bitsOf_cons, Nat.mul_succ, Nat.add_comm, ← List.drop_drop,
            List.drop_left' (length_bitsOfNat _ _)]

theorem bitsOfNat_congr {m n width : Nat} (hbits : ∀ i < width, m.testBit i = n.testBit i) :
    bitsOfNat m width = bitsOfNat n width := by
  induction width with
  | zero => rfl
  | succ width ih =>
      rw [bitsOfNat, bitsOfNat, hbits width width.lt_succ_self,
        ih fun i hi => hbits i (Nat.lt_succ_of_lt hi)]

theorem bitsOfNat_add (n upper lower : Nat) :
    bitsOfNat n (upper + lower) = bitsOfNat (n >>> lower) upper ++ bitsOfNat n lower := by
  induction upper with
  | zero => simp [bitsOfNat]
  | succ upper ih =>
      rw [Nat.succ_add, bitsOfNat, bitsOfNat, ih, Nat.testBit_shiftRight, Nat.add_comm lower,
        List.cons_append]

theorem natOfBits_append (x y : List Bool) :
    natOfBits (x ++ y) = natOfBits x <<< y.length + natOfBits y := by
  have hfrom (y : List Bool) (start : Nat) :
      y.foldl (fun n bit => 2 * n + bit.toNat) start = start <<< y.length + natOfBits y := by
    induction y generalizing start with
    | nil => simp [natOfBits]
    | cons bit y ih =>
        rw [natOfBits, List.foldl_cons, List.foldl_cons, ih, ih (2 * 0 + bit.toNat)]
        simp only [Nat.shiftLeft_eq, List.length_cons, Nat.pow_succ, Nat.add_mul, Nat.mul_zero,
          Nat.zero_add]
        rw [Nat.mul_comm 2 start, Nat.mul_assoc, Nat.mul_comm 2, Nat.add_assoc]
  rw [natOfBits, List.foldl_append, hfrom, ← natOfBits]

theorem natOfBits_bitsOfNat (n width : Nat) : natOfBits (bitsOfNat n width) = n % 1 <<< width := by
  induction width with
  | zero => simp [natOfBits, bitsOfNat, Nat.mod_one]
  | succ width ih =>
      have hsplit : bitsOfNat n (width + 1) = [n.testBit width] ++ bitsOfNat n width := rfl
      rw [hsplit, natOfBits_append, ih, length_bitsOfNat, Nat.one_shiftLeft, Nat.one_shiftLeft,
        Nat.mod_pow_succ, Nat.add_comm, ← Nat.toNat_testBit]
      simp [natOfBits, Nat.shiftLeft_eq, Nat.mul_comm]

theorem natOfBits_octet (o : UInt8) : natOfBits (bitsOfNat o.toNat 8) = o.toNat := by
  rw [natOfBits_bitsOfNat]
  exact Nat.mod_eq_of_lt o.toNat_lt

theorem bitsOf_bigEndian (value n : Nat) : bitsOf (bigEndian value n) = bitsOfNat value (8 * n) := by
  induction n with
  | zero => rfl
  | succ n ih =>
      have hoctet : (value >>> (8 * n) % 256).toUInt8.toNat = value >>> (8 * n) % 2 ^ 8 := by simp
      rw [bigEndian, bitsOf_cons, ih, Nat.mul_succ, Nat.add_comm, bitsOfNat_add, hoctet]
      congr 1
      apply bitsOfNat_congr
      intro i hi
      rw [Nat.testBit_mod_two_pow, decide_eq_true hi, Bool.true_and]

theorem bitsOf_replicate_zero (n : Nat) :
    bitsOf (List.replicate n 0) = List.replicate (8 * n) false := by
  induction n with
  | zero => rfl
  | succ n ih => rw [List.replicate_succ, bitsOf_cons, ih]; rfl

end Bits

section Padding

theorem zeroCount?_octets (length : Nat) :
    Standard.zeroCount? (8 * length) = some (7 + 8 * ((119 - length % 64) % 64)) := by
  rw [Standard.zeroCount?, List.find?_range_eq_some]
  refine ⟨?_, ?_, ?_⟩
  · apply decide_eq_true
    omega
  · rw [List.mem_range]
    omega
  · intro fewer hfewer
    simp only [Bool.not_eq_true', decide_eq_false_iff_not]
    omega

theorem padded?_octets {message : Bytes} (hlength : message.length < 0x2000000000000000) :
    Standard.padded? (bitsOf message) = some (bitsOf (message ++ padding message.length)) := by
  have hbits : (bitsOf message).length < 0x10000000000000000 := by
    rw [length_bitsOf]
    omega
  have hone (zeros : Nat) : bitsOf (0x80 :: List.replicate zeros 0) =
      true :: List.replicate (7 + 8 * zeros) false := by
    rw [bitsOf_cons, bitsOf_replicate_zero, ← List.replicate_append_replicate]
    rfl
  rw [Standard.padded?, if_pos hbits, length_bitsOf, zeroCount?_octets, Option.map_some,
    bitsOf_append, padding, bitsOf_append, hone, bitsOf_bigEndian]
  simp

end Padding

section Blocks

theorem toBitVec_blockWord (p q r s : UInt8) :
    ((p.toUInt32 <<< 24) ||| (q.toUInt32 <<< 16) ||| (r.toUInt32 <<< 8) ||| s.toUInt32).toBitVec =
      BitVec.ofNat 32 (natOfBits (bitsOf [p, q, r, s])) := by
  have hp := p.toNat_lt
  have hq := q.toNat_lt
  have hr := r.toNat_lt
  have hs := s.toNat_lt
  have hbits : natOfBits (bitsOf [p, q, r, s]) =
      p.toNat <<< 24 + (q.toNat <<< 16 + (r.toNat <<< 8 + s.toNat)) := by
    simp only [bitsOf_cons, natOfBits_append, natOfBits_octet, List.length_append,
      length_bitsOfNat, length_bitsOf, Nat.shiftLeft_eq]
    simp [natOfBits, bitsOf]
  have hlow : r.toNat <<< 8 + s.toNat < 2 ^ 16 := by
    rw [Nat.shiftLeft_eq]
    omega
  have hmiddle : q.toNat <<< 16 + (r.toNat <<< 8 + s.toNat) < 2 ^ 24 := by
    rw [Nat.shiftLeft_eq]
    omega
  rw [hbits, Nat.shiftLeft_add_eq_or_of_lt hmiddle, Nat.shiftLeft_add_eq_or_of_lt hlow,
    Nat.shiftLeft_add_eq_or_of_lt (i := 8) hs]
  apply BitVec.eq_of_toNat_eq
  simp [Nat.or_assoc]

theorem map_blockWords {b : Bytes} {n : Nat} (hlength : 4 * n ≤ b.length) :
    (blockWords (b.take (4 * n))).map UInt32.toBitVec =
      (List.range n).map fun t => BitVec.ofNat 32 (natOfBits (((bitsOf b).drop (32 * t)).take 32)) := by
  induction n generalizing b with
  | zero => rfl
  | succ n ih =>
      match b, hlength with
      | p :: q :: r :: s :: rest, hlength =>
        have hfirst : (bitsOf (p :: q :: r :: s :: rest)).take 32 = bitsOf [p, q, r, s] := rfl
        have hlater (t : Nat) : (bitsOf (p :: q :: r :: s :: rest)).drop (32 * (t + 1)) =
            (bitsOf rest).drop (32 * t) := by
          rw [Nat.mul_succ, Nat.add_comm, ← List.drop_drop]
          rfl
        have hrest : 4 * n ≤ rest.length := by
          simp only [List.length_cons] at hlength
          omega
        rw [Nat.mul_succ, List.take_succ_cons, List.take_succ_cons, List.take_succ_cons,
          List.take_succ_cons, blockWords, List.map_cons, toBitVec_blockWord, ih hrest,
          List.range_succ_eq_map, List.map_cons, List.map_map, Nat.mul_zero, List.drop_zero, hfirst]
        simp only [Function.comp_def, hlater]

theorem blockWords_zero {b : Bytes} (hlength : 64 ≤ b.length) :
    Standard.blockWords (bitsOf b) 0 = (blockWords (b.take 64)).map UInt32.toBitVec := by
  simp only [Standard.blockWords, Nat.mul_zero, Nat.zero_add]
  exact (map_blockWords (n := 16) hlength).symm

theorem blockWords_succ (b : Bytes) (index : Nat) :
    Standard.blockWords (bitsOf b) (index + 1) = Standard.blockWords (bitsOf (b.drop 64)) index := by
  have hstart (t : Nat) : 512 * (index + 1) + 32 * t = 8 * 64 + (512 * index + 32 * t) := by omega
  simp only [Standard.blockWords, bitsOf_drop, List.drop_drop, hstart]

theorem toBitVec_next (w0 w1 w9 w14 : UInt32) :
    (w0 + (rotate w1 7 ^^^ rotate w1 18 ^^^ (w1 >>> 3)) + w9 +
        (rotate w14 17 ^^^ rotate w14 19 ^^^ (w14 >>> 10))).toBitVec =
      Standard.lowerSigma1 w14.toBitVec + w9.toBitVec + Standard.lowerSigma0 w1.toBitVec +
        w0.toBitVec := by
  have horder : Standard.lowerSigma1 w14.toBitVec + w9.toBitVec +
      Standard.lowerSigma0 w1.toBitVec + w0.toBitVec =
        w0.toBitVec + Standard.lowerSigma0 w1.toBitVec + w9.toBitVec +
          Standard.lowerSigma1 w14.toBitVec := by
    ac_rfl
  rw [horder]
  rfl

/-- The sixteen words before give the ones that are added. -/
theorem scheduleUpTo_extend {block words : Words} {i : Nat} (hlength : words.length = 16 + i)
    (hwords : Standard.scheduleUpTo (block.map UInt32.toBitVec) i = words.map UInt32.toBitVec)
    (n : Nat) :
    Standard.scheduleUpTo (block.map UInt32.toBitVec) (i + n) =
      (words ++ extendSchedule (words.reverse.take 16) n).map UInt32.toBitVec := by
  induction n generalizing words i with
  | zero => simp [extendSchedule, hwords]
  | succ n ih =>
      have hrecent (j k : Nat) (hjk : j + k = 15) :
          (words.reverse.take 16).getD j 0 = words.getD (i + k) 0 := by
        have hindex : words.length - 1 - j = i + k := by omega
        rw [List.getD_eq_getElem?_getD, List.getD_eq_getElem?_getD,
          List.getElem?_take_of_lt (by omega), List.getElem?_reverse (by omega), hindex]
      have hword (t : Nat) :
          (words.map UInt32.toBitVec).getD t 0 = (words.getD t 0).toBitVec := by
        simp only [List.getD_eq_getElem?_getD, List.getElem?_map]
        cases words[t]? <;> rfl
      rw [extendSchedule]
      simp only [hrecent 15 0, hrecent 14 1, hrecent 6 9, hrecent 1 14]
      generalize hnext : words.getD (i + 0) 0 + _ + _ + _ = next
      have hstep : Standard.scheduleUpTo (block.map UInt32.toBitVec) (i + 1) =
          (words ++ [next]).map UInt32.toBitVec := by
        rw [List.map_append, List.map_singleton, ← hnext, toBitVec_next, ← hwords]
        simp only [Standard.scheduleUpTo, hwords, hword]
        rfl
      have hlonger : (words ++ [next]).length = 16 + (i + 1) := by
        rw [List.length_append, hlength]
        rfl
      have hlater := ih hlonger hstep
      rw [List.reverse_append, List.append_assoc] at hlater
      rw [Nat.add_comm n, ← Nat.add_assoc, hlater, List.take_take]
      rfl

theorem schedule_map {block : Words} (hlength : block.length = 16) :
    Standard.scheduleUpTo (block.map UInt32.toBitVec) 48 = (schedule block).map UInt32.toBitVec := by
  have hall : block.reverse.take 16 = block.reverse := by
    rw [List.take_of_length_le]
    simp [hlength]
  have hextend := scheduleUpTo_extend hlength (i := 0) rfl 48
  rwa [hall, Nat.zero_add] at hextend

theorem round_value (s : Chain) (constant word : UInt32) :
    (round s constant word).value =
      Standard.round s.value constant.toBitVec word.toBitVec :=
  rfl

theorem constants_eq : Standard.constants = roundConstants.map UInt32.toBitVec := by
  decide +kernel

theorem initial_value : Chain.initial.value = Value.initial := by
  decide +kernel

theorem rounds_value (s : Chain) (constants words : Words) :
    ((constants.zip words).foldl (fun s (constant, word) => round s constant word) s).value =
      ((constants.map UInt32.toBitVec).zip (words.map UInt32.toBitVec)).foldl
        (fun v (constant, word) => Standard.round v constant word) s.value := by
  rw [List.zip_map, List.foldl_map]
  generalize constants.zip words = rounds
  induction rounds generalizing s with
  | nil => rfl
  | cons first rounds ih =>
      rw [List.foldl_cons, ih, List.foldl_cons, round_value]
      rfl

theorem compress_value (s : Chain) {block : Bytes} (hlength : (blockWords block).length = 16) :
    (compress s block).value =
      Standard.process s.value ((blockWords block).map UInt32.toBitVec) := by
  rw [Standard.process, schedule_map hlength, constants_eq, ← rounds_value]
  rfl

theorem compressBlocks_value (s : Chain) {b : Bytes} {n : Nat} (hlength : 64 * n ≤ b.length) :
    (compressBlocks s b n).value = (List.range n).foldl
      (fun v index => Standard.process v (Standard.blockWords (bitsOf b) index)) s.value := by
  induction n generalizing s b with
  | zero => rfl
  | succ n ih =>
      have hfirst : 64 ≤ b.length := by omega
      have hrest : 64 * n ≤ (b.drop 64).length := by
        rw [List.length_drop]
        omega
      rw [compressBlocks, ih _ hrest, List.range_succ_eq_map, List.foldl_cons, List.foldl_map,
        compress_value, ← blockWords_zero hfirst]
      · simp only [blockWords_succ]
      · simpa [Standard.blockWords] using (congrArg List.length (blockWords_zero hfirst)).symm

end Blocks

theorem bits_value (s : Chain) : s.value.bits = bitsOf s.octets := by
  simp only [Value.bits, Chain.octets, List.flatMap_cons, List.flatMap_nil, bitsOf_append,
    bitsOf_bigEndian]
  rfl

theorem digest?_octets {message : Bytes} (hlength : message.length < 0x2000000000000000) :
    Standard.digest? (bitsOf message) = some (bitsOf (digest message)) := by
  have hblocks : (bitsOf (message ++ padding message.length)).length / 512 =
      (message ++ padding message.length).length / 64 := by
    rw [length_bitsOf]
    omega
  rw [Standard.digest?, padded?_octets hlength, Option.map_some, hblocks, digest, ← bits_value,
    compressBlocks_value, initial_value]
  omega

section Digits

theorem hexOfBits_octet (o : UInt8) (rest : List Bool) :
    Standard.hexOfBits (bitsOfNat o.toNat 8 ++ rest) =
      [Text.hexDigit (o.toNat / 16), Text.hexDigit (o.toNat % 16)] ++ Standard.hexOfBits rest := by
  have hdigits : ∀ n < 256, Standard.hexOfBits (bitsOfNat n 8) =
      [Text.hexDigit (n / 16), Text.hexDigit (n % 16)] := by
    decide +kernel
  rw [← hdigits o.toNat o.toNat_lt]
  rfl

theorem hexOfBits_octets (b : Bytes) : Standard.hexOfBits (bitsOf b) = hexOf b := by
  induction b with
  | nil => rfl
  | cons o b ih =>
      rw [bitsOf_cons, hexOfBits_octet, ih]
      rfl

theorem length_digest (message : Bytes) : (digest message).length = 32 :=
  rfl

theorem length_hexOf (b : Bytes) : (hexOf b).length = 2 * b.length := by
  induction b with
  | nil => rfl
  | cons o b ih =>
      rw [hexOf, List.flatMap_cons, List.length_append, ← hexOf, ih, List.length_cons]
      simp [Nat.mul_succ, Nat.add_comm]

theorem mem_hexOf {b : Bytes} {c : Char} (hc : c ∈ hexOf b) : c ∈ "0123456789abcdef".toList := by
  have hdigit : ∀ n < 16, Text.hexDigit n ∈ "0123456789abcdef".toList := by decide
  obtain ⟨o, -, hdigits⟩ := List.mem_flatMap.mp hc
  have ho := o.toNat_lt
  simp only [List.mem_cons, List.not_mem_nil, or_false] at hdigits
  rcases hdigits with rfl | rfl
  · exact hdigit _ (by omega)
  · exact hdigit _ (by omega)

end Digits

/-- The digest of every message that has one is the standard one, in sixty-four digits. -/
theorem hexDigest_standard {message : Bytes} (hlength : message.length < 0x2000000000000000) :
    (Standard.digest? (bitsOf message)).map Standard.hexOfBits = some (hexDigest message) := by
  rw [digest?_octets hlength, Option.map_some, hexOfBits_octets, hexDigest]

theorem length_hexDigest (message : Bytes) : (hexDigest message).length = 64 := by
  rw [hexDigest, length_hexOf, length_digest]

end OperatorNames.Sha256
