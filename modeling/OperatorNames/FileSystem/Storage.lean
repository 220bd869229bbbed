import OperatorNames.Fault
import OperatorNames.Text.Basic

/-!
# Room for files

What becomes of a file that is made.  Where there is too little room, the file is there and holds a
first part of what is written to it (`kept`), and writing the rest fails (`overflow?`).
-/

namespace OperatorNames

/-- What becomes of a file that is made. -/
inductive Storage
  /-- The file is there and keeps whatever is written to it. -/
  | ample
  /-- No file can be made. -/
  | refusing (fault : Fault)
  /-- The file takes `room` octets, and writing more fails. -/
  | limited (room : Nat) (fault : Fault)
  deriving DecidableEq

namespace Storage

/-- Why no file can be made, if none can. -/
def refusal? : Storage → Option Fault
  | .refusing fault => some fault
  | _ => none

/-- What a file keeps of octets that are written to it. -/
def kept : Storage → Bytes → Bytes
  | .limited room _, b => b.take room
  | _, b => b

/-- Why octets cannot be written to a file in whole, if they cannot. -/
def overflow? : Storage → Bytes → Option Fault
  | .limited room fault, b => if b.length ≤ room then none else some fault
  | _, _ => none

/-- What is kept is what was written, as far as it goes. -/
theorem kept_isPrefix (storage : Storage) (b : Bytes) : storage.kept b <+: b := by
  cases storage with
  | ample => exact List.prefix_refl b
  | refusing fault => exact List.prefix_refl b
  | limited room fault => exact List.take_prefix room b

/-- All is kept of what can be written in whole. -/
theorem kept_of_overflow?_none {storage : Storage} {b : Bytes} (hfits : storage.overflow? b = none) :
    storage.kept b = b := by
  cases storage with
  | ample => rfl
  | refusing fault => rfl
  | limited room fault =>
      have hlength : b.length ≤ room := by
        simpa [overflow?] using hfits
      exact List.take_of_length_le hlength

end Storage

end OperatorNames
