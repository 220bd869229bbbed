import OperatorNames.Sha256

/-!
# Hashing in portions

A hasher that has taken portions is where hashing their whole has come to: its chain has taken every
full block, and what waits is what is left after them.  However a message is divided, the digest is
that of the message.
-/

namespace OperatorNames.Sha256

/-- Full blocks can be taken before the octets that follow are known. -/
theorem compressBlocks_append (s : Chain) {b : Bytes} (c : Bytes) {m : Nat}
    (hlength : 64 * m ≤ b.length) (n : Nat) :
    compressBlocks s (b ++ c) (m + n) =
      compressBlocks (compressBlocks s b m) (b.drop (64 * m) ++ c) n := by
  induction m generalizing s b with
  | zero => simp [compressBlocks]
  | succ m ih =>
      have hblock : 64 ≤ b.length := by omega
      have hrest : 64 * m ≤ (b.drop 64).length := by
        rw [List.length_drop]
        omega
      rw [Nat.succ_add, compressBlocks, compressBlocks, List.take_append_of_le_length hblock,
        List.drop_append_of_le_length hblock, ih _ hrest, List.drop_drop, Nat.mul_succ, Nat.add_comm]

namespace Hasher

/-- The hasher is where it comes to over a message. -/
structure Holds (s : Hasher) (message : Bytes) : Prop where
  /-- Every full block has been taken. -/
  chain_eq : s.chain = compressBlocks .initial message (message.length / 64)
  /-- The octets after the last full block wait. -/
  pending_eq : s.pending = message.drop (64 * (message.length / 64))
  /-- All octets have been counted. -/
  length_eq : s.length = message.length

theorem Holds.initial : Holds {} [] where
  chain_eq := rfl
  pending_eq := rfl
  length_eq := rfl

theorem Holds.length_pending {s : Hasher} {message : Bytes} (hs : s.Holds message) :
    s.pending.length = message.length % 64 := by
  rw [hs.pending_eq, List.length_drop]
  omega

/-- What the chain comes to over more octets is told by what waits and by them. -/
theorem Holds.compressBlocks_append {s : Hasher} {message : Bytes} (hs : s.Holds message)
    (more : Bytes) :
    compressBlocks .initial (message ++ more) ((message ++ more).length / 64) =
      compressBlocks s.chain (s.pending ++ more) ((s.pending ++ more).length / 64) := by
  have hfull : 64 * (message.length / 64) ≤ message.length := Nat.mul_div_le _ _
  have hblocks : (message ++ more).length / 64 =
      message.length / 64 + (s.pending ++ more).length / 64 := by
    rw [List.length_append, List.length_append, hs.length_pending]
    omega
  rw [hblocks, Sha256.compressBlocks_append _ _ hfull, hs.chain_eq, hs.pending_eq]

theorem Holds.update {s : Hasher} {message : Bytes} (hs : s.Holds message) (portion : Bytes) :
    (s.update portion).Holds (message ++ portion) where
  chain_eq := (hs.compressBlocks_append portion).symm
  pending_eq := by
    have hfull : 64 * (message.length / 64) ≤ message.length := Nat.mul_div_le _ _
    have hblocks : 64 * ((message ++ portion).length / 64) =
        64 * (message.length / 64) + 64 * ((s.pending ++ portion).length / 64) := by
      rw [List.length_append, List.length_append, hs.length_pending]
      omega
    rw [hblocks, ← List.drop_drop, List.drop_append_of_le_length hfull, ← hs.pending_eq]
    rfl
  length_eq := by
    rw [List.length_append, ← hs.length_eq]
    rfl

theorem Holds.foldl_update {s : Hasher} {message : Bytes} (hs : s.Holds message)
    (portions : List Bytes) :
    (portions.foldl Hasher.update s).Holds (message ++ portions.flatten) := by
  induction portions generalizing s message with
  | nil => simpa using hs
  | cons portion portions ih =>
      have hlater := ih (hs.update portion)
      rwa [List.append_assoc] at hlater

theorem Holds.finish {s : Hasher} {message : Bytes} (hs : s.Holds message) :
    s.finish = digest message := by
  rw [Hasher.finish, digest, hs.length_eq, hs.compressBlocks_append]

/-- However a message is divided, its digest is that of the whole. -/
theorem ofPortions_eq (portions : List Bytes) : ofPortions portions = digest portions.flatten := by
  have hall := Holds.initial.foldl_update portions
  exact hall.finish

end Hasher

end OperatorNames.Sha256
