import OperatorNames.Text.Basic

/-!
# Reading files in portions

A file is read in portions, and how much of it one read gives is settled by the system: at least one
octet before the end, and no more than was asked for.  A `Reading` is a way in which reads divide
what files hold; `Reading.full` is the one in which every read but the last gives all that was asked
for.
-/

namespace OperatorNames

/-- How many octets of a file are asked for at a time. -/
def portionSize : Nat := 65536

/-- Octets in portions of `size` octets; the last one may be shorter. -/
def portions (size : Nat) (b : Bytes) : List Bytes :=
  if _h : size = 0 ∨ b = [] then []
  else b.take size :: portions size (b.drop size)
termination_by b.length
decreasing_by
  have hs : size ≠ 0 := fun e => _h (.inl e)
  have hb : b.length ≠ 0 := fun e => _h (.inr (List.eq_nil_of_length_eq_zero e))
  simp only [List.length_drop]
  omega

theorem flatten_portions {size : Nat} (hsize : size ≠ 0) (b : Bytes) :
    (portions size b).flatten = b := by
  fun_induction portions size b with
  | case1 b hend =>
    rcases hend with hzero | hnil
    · exact absurd hzero hsize
    · rw [hnil]
      rfl
  | case2 b _ ih => rw [List.flatten_cons, ih, List.take_append_drop]

theorem bounds_portions {size : Nat} {b p : Bytes} (hp : p ∈ portions size b) :
    p ≠ [] ∧ p.length ≤ size := by
  fun_induction portions size b with
  | case1 => cases hp
  | case2 b hend ih =>
    rcases List.mem_cons.mp hp with rfl | hlater
    · rw [not_or] at hend
      exact ⟨by simp [hend], List.length_take_le size b⟩
    · exact ih hlater

/-- A way in which the reads of a file divide what it holds. -/
structure Reading where
  /-- The portions of a file that holds given octets, up to its end. -/
  portions : Bytes → List Bytes
  /-- No octet is lost, and none is read twice. -/
  flatten_portions : ∀ b, (portions b).flatten = b
  /-- Only the end of the file gives no octet, and no read gives more than was asked for. -/
  bounds_portions : ∀ b, ∀ p ∈ portions b, p ≠ [] ∧ p.length ≤ portionSize

/-- Every read gives all that was asked for, as far as the file goes. -/
def Reading.full : Reading where
  portions := OperatorNames.portions portionSize
  flatten_portions := OperatorNames.flatten_portions (by decide)
  bounds_portions _ _ hp := OperatorNames.bounds_portions hp

end OperatorNames
