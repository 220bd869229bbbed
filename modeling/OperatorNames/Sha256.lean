import OperatorNames.Text.Basic

/-!
# SHA-256

The digest of a run of octets.  `Sha256.digest` pads the whole message and hashes it; a `Hasher`
takes the message in portions of any size and keeps only what does not fill a block yet.
-/

namespace OperatorNames.Sha256

/-- A block or a schedule: words of 32 bits. -/
abbrev Words := List UInt32

/-- The round constants. -/
def roundConstants : Words :=
  [0x428a2f98, 0x71374491, 0xb5c0fbcf, 0xe9b5dba5, 0x3956c25b, 0x59f111f1, 0x923f82a4, 0xab1c5ed5,
   0xd807aa98, 0x12835b01, 0x243185be, 0x550c7dc3, 0x72be5d74, 0x80deb1fe, 0x9bdc06a7, 0xc19bf174,
   0xe49b69c1, 0xefbe4786, 0x0fc19dc6, 0x240ca1cc, 0x2de92c6f, 0x4a7484aa, 0x5cb0a9dc, 0x76f988da,
   0x983e5152, 0xa831c66d, 0xb00327c8, 0xbf597fc7, 0xc6e00bf3, 0xd5a79147, 0x06ca6351, 0x14292967,
   0x27b70a85, 0x2e1b2138, 0x4d2c6dfc, 0x53380d13, 0x650a7354, 0x766a0abb, 0x81c2c92e, 0x92722c85,
   0xa2bfe8a1, 0xa81a664b, 0xc24b8b70, 0xc76c51a3, 0xd192e819, 0xd6990624, 0xf40e3585, 0x106aa070,
   0x19a4c116, 0x1e376c08, 0x2748774c, 0x34b0bcb5, 0x391c0cb3, 0x4ed8aa4a, 0x5b9cca4f, 0x682e6ff3,
   0x748f82ee, 0x78a5636f, 0x84c87814, 0x8cc70208, 0x90befffa, 0xa4506ceb, 0xbef9a3f7, 0xc67178f2]

/-- The eight words that hashing keeps between blocks. -/
structure Chain where
  /-- First word. -/
  a : UInt32
  /-- Second word. -/
  b : UInt32
  /-- Third word. -/
  c : UInt32
  /-- Fourth word. -/
  d : UInt32
  /-- Fifth word. -/
  e : UInt32
  /-- Sixth word. -/
  f : UInt32
  /-- Seventh word. -/
  g : UInt32
  /-- Eighth word. -/
  h : UInt32
  deriving DecidableEq

/-- The words before the first block. -/
def Chain.initial : Chain :=
  ⟨0x6a09e667, 0xbb67ae85, 0x3c6ef372, 0xa54ff53a, 0x510e527f, 0x9b05688c, 0x1f83d9ab, 0x5be0cd19⟩

/-- Rotates a word to the right. -/
def rotate (w : UInt32) (n : UInt32) : UInt32 :=
  (w >>> n) ||| (w <<< (32 - n))

/-- The octets of a block as sixteen words, the most significant octet of each first. -/
def blockWords : Bytes → Words
  | p :: q :: r :: s :: rest =>
    ((p.toUInt32 <<< 24) ||| (q.toUInt32 <<< 16) ||| (r.toUInt32 <<< 8) ||| s.toUInt32)
      :: blockWords rest
  | _ => []

/-- Adds `n` words to a schedule.  `recent` holds the sixteen words before, the latest first; the
result is in order. -/
def extendSchedule (recent : Words) : Nat → Words
  | 0 => []
  | n + 1 =>
    let word (i : Nat) : UInt32 := recent.getD i 0
    let low := rotate (word 14) 7 ^^^ rotate (word 14) 18 ^^^ (word 14 >>> 3)
    let high := rotate (word 1) 17 ^^^ rotate (word 1) 19 ^^^ (word 1 >>> 10)
    let next := word 15 + low + word 6 + high
    next :: extendSchedule (next :: recent.take 15) n

/-- The sixty-four words that a block is expanded to. -/
def schedule (block : Words) : Words :=
  block ++ extendSchedule block.reverse 48

/-- One round, with its constant and its word of the schedule. -/
def round (s : Chain) (constant word : UInt32) : Chain :=
  let sum1 := rotate s.e 6 ^^^ rotate s.e 11 ^^^ rotate s.e 25
  let choice := (s.e &&& s.f) ^^^ (~~~s.e &&& s.g)
  let t1 := s.h + sum1 + choice + constant + word
  let sum0 := rotate s.a 2 ^^^ rotate s.a 13 ^^^ rotate s.a 22
  let majority := (s.a &&& s.b) ^^^ (s.a &&& s.c) ^^^ (s.b &&& s.c)
  let t2 := sum0 + majority
  ⟨t1 + t2, s.a, s.b, s.c, s.d + t1, s.e, s.f, s.g⟩

/-- Takes one block of 64 octets into the chain. -/
def compress (s : Chain) (block : Bytes) : Chain :=
  let t := (roundConstants.zip (schedule (blockWords block))).foldl
    (fun s (constant, word) => round s constant word) s
  ⟨s.a + t.a, s.b + t.b, s.c + t.c, s.d + t.d, s.e + t.e, s.f + t.f, s.g + t.g, s.h + t.h⟩

/-- Takes `n` blocks from the front of octets. -/
def compressBlocks (s : Chain) (b : Bytes) : Nat → Chain
  | 0 => s
  | n + 1 => compressBlocks (compress s (b.take 64)) (b.drop 64) n

/-- The octets of a number in `n` places, the most significant first. -/
def bigEndian (value : Nat) : Nat → Bytes
  | 0 => []
  | n + 1 => (value >>> (8 * n) % 256).toUInt8 :: bigEndian value n

/-- What follows a message of `length` octets: a one bit, zeros up to eight octets before a block's
end, and the length in bits. -/
def padding (length : Nat) : Bytes :=
  0x80 :: List.replicate ((119 - length % 64) % 64) 0 ++ bigEndian (8 * length) 8

/-- The octets of the chain's words. -/
def Chain.octets (s : Chain) : Bytes :=
  [s.a, s.b, s.c, s.d, s.e, s.f, s.g, s.h].flatMap fun w => bigEndian w.toNat 4

/-- The digest of a message, 32 octets. -/
def digest (message : Bytes) : Bytes :=
  let padded := message ++ padding message.length
  (compressBlocks .initial padded (padded.length / 64)).octets

/-- Octets as hexadecimal digits in lower case, two for each. -/
def hexOf (b : Bytes) : Text :=
  b.flatMap fun octet => [Text.hexDigit (octet.toNat / 16), Text.hexDigit (octet.toNat % 16)]

/-- The digest of a message in hexadecimal digits. -/
def hexDigest (message : Bytes) : Text :=
  hexOf (digest message)

/-- Hashing in progress. -/
structure Hasher where
  /-- The chain after the blocks taken so far. -/
  chain : Chain := .initial
  /-- The octets after the last full block. -/
  pending : Bytes := []
  /-- How many octets have been taken in all. -/
  length : Nat := 0

namespace Hasher

/-- Takes a portion of the message. -/
def update (s : Hasher) (portion : Bytes) : Hasher :=
  let waiting := s.pending ++ portion
  let blocks := waiting.length / 64
  { chain := compressBlocks s.chain waiting blocks
    pending := waiting.drop (64 * blocks)
    length := s.length + portion.length }

/-- The digest of all portions taken. -/
def finish (s : Hasher) : Bytes :=
  let last := s.pending ++ padding s.length
  (compressBlocks s.chain last (last.length / 64)).octets

/-- The digest of a message taken in portions. -/
def ofPortions (portions : List Bytes) : Bytes :=
  (portions.foldl update {}).finish

end Hasher

end OperatorNames.Sha256
