import OperatorNames.Text.Basic

/-!
# The Secure Hash Standard

SHA-256 as FIPS 180-4 defines it, on bits: the functions of section 4.1.2, the constants of 4.2.2
and 5.3.3 by what they are said to be and not as tables, the padding of 5.1.1, the blocks of 5.2.1
and the computation of 6.2.  A message has a digest when its length in bits is below 2^64.
-/

namespace OperatorNames.Sha256.Standard

/-- A word of 32 bits. -/
abbrev Word := BitVec 32

section Functions

variable (x y z : Word)

def choice : Word := (x &&& y) ^^^ (~~~x &&& z)

def majority : Word := (x &&& y) ^^^ (x &&& z) ^^^ (y &&& z)

def upperSigma0 : Word := x.rotateRight 2 ^^^ x.rotateRight 13 ^^^ x.rotateRight 22

def upperSigma1 : Word := x.rotateRight 6 ^^^ x.rotateRight 11 ^^^ x.rotateRight 25

def lowerSigma0 : Word := x.rotateRight 7 ^^^ x.rotateRight 18 ^^^ x >>> 3

def lowerSigma1 : Word := x.rotateRight 17 ^^^ x.rotateRight 19 ^^^ x >>> 10

end Functions

/-- The primes below a bound, in order. -/
def primesBelow (bound : Nat) : List Nat :=
  (List.range bound).filter fun n =>
    1 < n && (List.range n).all fun d => d ≤ 1 || n % d ≠ 0

/-- The whole part of the `k`-th root of a number, found bit by bit; the root has no more bits than
are given. -/
def wholeRoot (k : Nat) (n : Nat) : Nat → Nat
  | 0 => 0
  | bits + 1 =>
    let root := 2 * wholeRoot k (n >>> k) bits
    if Nat.pow (root + 1) k ≤ n then root + 1 else root

/-- The first 32 bits of the fractional part of the `k`-th root of a number. -/
def rootFraction (k n : Nat) : Word :=
  BitVec.ofNat 32 (wholeRoot k (n <<< (32 * k)) 40)

/-- From the cube roots of the first sixty-four primes. -/
def constants : List Word :=
  (primesBelow 312).map (rootFraction 3)

/-- The eight words of a hash value, which are also the working variables. -/
structure Value where
  /-- First word. -/
  a : Word
  /-- Second word. -/
  b : Word
  /-- Third word. -/
  c : Word
  /-- Fourth word. -/
  d : Word
  /-- Fifth word. -/
  e : Word
  /-- Sixth word. -/
  f : Word
  /-- Seventh word. -/
  g : Word
  /-- Eighth word. -/
  h : Word
  deriving DecidableEq

/-- From the square roots of the first eight primes. -/
def Value.initial : Value :=
  ⟨rootFraction 2 2, rootFraction 2 3, rootFraction 2 5, rootFraction 2 7, rootFraction 2 11,
    rootFraction 2 13, rootFraction 2 17, rootFraction 2 19⟩

/-- The lowest bits of a number, the most significant first. -/
def bitsOfNat (n : Nat) : Nat → List Bool
  | 0 => []
  | width + 1 => n.testBit width :: bitsOfNat n width

/-- The number that bits stand for, the most significant first. -/
def natOfBits (bits : List Bool) : Nat :=
  bits.foldl (fun n bit => 2 * n + bit.toNat) 0

/-- How many zeros stand between the one bit after a message of `length` bits and its length: the
least solution of the congruence. -/
def zeroCount? (length : Nat) : Option Nat :=
  (List.range 512).find? fun k => (length + 1 + k) % 512 = 448

/-- A message with its padding. -/
def padded? (message : List Bool) : Option (List Bool) :=
  if message.length < 0x10000000000000000 then
    (zeroCount? message.length).map fun zeros =>
      message ++ true :: List.replicate zeros false ++ bitsOfNat message.length 64
  else none

/-- The sixteen words of the block at an index. -/
def blockWords (bits : List Bool) (index : Nat) : List Word :=
  (List.range 16).map fun t =>
    BitVec.ofNat 32 (natOfBits ((bits.drop (512 * index + 32 * t)).take 32))

/-- The message schedule up to `n` words after those of the block. -/
def scheduleUpTo (block : List Word) : Nat → List Word
  | 0 => block
  | n + 1 =>
    let words := scheduleUpTo block n
    let word (t : Nat) : Word := words.getD t 0
    let t := n + 16
    words ++
      [lowerSigma1 (word (t - 2)) + word (t - 7) + lowerSigma0 (word (t - 15)) + word (t - 16)]

/-- What is done for one word of the schedule. -/
def round (v : Value) (constant word : Word) : Value :=
  let t1 := v.h + upperSigma1 v.e + choice v.e v.f v.g + constant + word
  let t2 := upperSigma0 v.a + majority v.a v.b v.c
  ⟨t1 + t2, v.a, v.b, v.c, v.d + t1, v.e, v.f, v.g⟩

/-- The hash value after a block. -/
def process (v : Value) (block : List Word) : Value :=
  let w := (constants.zip (scheduleUpTo block 48)).foldl
    (fun v (constant, word) => round v constant word) v
  ⟨v.a + w.a, v.b + w.b, v.c + w.c, v.d + w.d, v.e + w.e, v.f + w.f, v.g + w.g, v.h + w.h⟩

/-- The words of a hash value as one row of bits. -/
def Value.bits (v : Value) : List Bool :=
  [v.a, v.b, v.c, v.d, v.e, v.f, v.g, v.h].flatMap fun w => bitsOfNat w.toNat 32

/-- The digest of a message, 256 bits; none if the message is too long to have one. -/
def digest? (message : List Bool) : Option (List Bool) :=
  (padded? message).map fun bits =>
    let value := (List.range (bits.length / 512)).foldl
      (fun v index => process v (blockWords bits index)) .initial
    value.bits

/-- Four bits at a time as hexadecimal digits in lower case. -/
def hexOfBits : List Bool → Text
  | p :: q :: r :: s :: rest =>
    "0123456789abcdef".toList.getD (natOfBits [p, q, r, s]) ' ' :: hexOfBits rest
  | _ => []

/-- The bits of octets, the most significant of each first. -/
def bitsOf (b : Bytes) : List Bool :=
  b.flatMap fun octet => bitsOfNat octet.toNat 8

/-- The search keeps at each bit that the root is between what is found and the next number. -/
theorem wholeRoot_bounds {k : Nat} (hk : 0 < k) {n bits : Nat} (hn : n < Nat.pow (1 <<< bits) k) :
    Nat.pow (wholeRoot k n bits) k ≤ n ∧ n < Nat.pow (wholeRoot k n bits + 1) k := by
  simp only [Nat.pow_eq, Nat.one_shiftLeft] at hn ⊢
  induction bits generalizing n with
  | zero =>
      have hzero : n = 0 := by simpa using hn
      simp [wholeRoot, hzero, Nat.zero_pow hk]
  | succ bits ih =>
      have hpos : 0 < 2 ^ k := Nat.two_pow_pos k
      rw [Nat.pow_succ, Nat.mul_pow] at hn
      obtain ⟨hle, hlt⟩ := ih (n := n >>> k) (by
        rw [Nat.shiftRight_eq_div_pow]
        exact Nat.div_lt_of_lt_mul (by rwa [Nat.mul_comm]))
      rw [Nat.shiftRight_eq_div_pow] at hle hlt
      have hlow : (2 * wholeRoot k (n >>> k) bits) ^ k ≤ n := by
        rw [Nat.mul_pow, Nat.shiftRight_eq_div_pow, Nat.mul_comm]
        exact (Nat.le_div_iff_mul_le hpos).mp hle
      have hhigh : n < (2 * wholeRoot k (n >>> k) bits + 1 + 1) ^ k := by
        have heq : 2 * wholeRoot k (n >>> k) bits + 1 + 1 = (wholeRoot k (n >>> k) bits + 1) * 2 := by
          omega
        rw [heq, Nat.mul_pow, Nat.shiftRight_eq_div_pow]
        exact (Nat.div_lt_iff_lt_mul hpos).mp hlt
      simp only [wholeRoot, Nat.pow_eq]
      split
      · exact ⟨‹_›, hhigh⟩
      · exact ⟨hlow, Nat.lt_of_not_le ‹_›⟩

end OperatorNames.Sha256.Standard
