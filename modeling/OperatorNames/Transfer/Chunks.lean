import OperatorNames.Transfer.Fault

/-!
# Bodies in chunks

A body whose length is not known beforehand comes in chunks.  Each chunk is announced by its size in
hexadecimal digits on a line of its own; a chunk of size zero is the last one, and lines after it up
to an empty one are passed over.  The reader is a machine that takes one octet at a time.
-/

namespace OperatorNames.Transfer

/-- Where the reader of a body in chunks stands. -/
inductive ChunkStage
  /-- Within the digits of a size, of which some have been read. -/
  | size (digits value : Nat)
  /-- In the rest of the line that announces a size. -/
  | announced (value : Nat)
  /-- Within a chunk that still has octets to come. -/
  | content (left : Nat)
  /-- After a chunk, before the end of its line. -/
  | closing
  /-- At the start of a line after the last chunk. -/
  | afterLast
  /-- Within such a line. -/
  | passedOver
  /-- After the carriage return of such a line. -/
  | passedLine
  /-- After the carriage return of the empty line that ends the body. -/
  | lastLine
  /-- At the end of the body. -/
  | ended
  deriving DecidableEq

/-- A body in chunks, read in part. -/
structure ChunkReader where
  /-- Where the reader stands. -/
  stage : ChunkStage := .size 0 0
  /-- The octets of the body so far, the last one first. -/
  done : Bytes := []

namespace ChunkReader

/-- The greatest number of digits of a size. -/
def maxDigits : Nat := 16

/-- What sizes stay below; it is two to the power of 63. -/
def sizeBound : Nat := 0x8000000000000000

/-- What follows a size that has been read: the rest of its line, which `octet` may end already. -/
def announce (r : ChunkReader) (value : Nat) (octet : UInt8) : ChunkReader :=
  if octet = 0x0A then
    { r with stage := if value = 0 then .afterLast else .content value }
  else { r with stage := .announced value }

/-- Takes one octet. -/
def step (r : ChunkReader) (octet : UInt8) : Except TransferFault ChunkReader :=
  match r.stage with
  | .size digits value =>
    match Text.hexDigit? (Char.ofNat octet.toNat) with
    | some d =>
      if digits < maxDigits then .ok { r with stage := .size (digits + 1) (value * 16 + d) }
      else .error .brokenBody
    | none =>
      if digits = 0 ∨ sizeBound ≤ value then .error .brokenBody else .ok (r.announce value octet)
  | .announced value => .ok (r.announce value octet)
  | .content left =>
    .ok { stage := if left ≤ 1 then .closing else .content (left - 1), done := octet :: r.done }
  | .closing =>
    if octet = 0x0A then .ok { r with stage := .size 0 0 }
    else if octet = 0x0D then .ok r
    else .error .brokenBody
  | .afterLast =>
    if octet = 0x0A then .ok { r with stage := .ended }
    else if octet = 0x0D then .ok { r with stage := .lastLine }
    else .ok { r with stage := .passedOver }
  | .passedOver =>
    if octet = 0x0A then .ok { r with stage := .afterLast }
    else if octet = 0x0D then .ok { r with stage := .passedLine }
    else .ok r
  | .passedLine =>
    if octet = 0x0A then .ok { r with stage := .afterLast } else .error .brokenBody
  | .lastLine =>
    if octet = 0x0A then .ok { r with stage := .ended } else .error .brokenBody
  | .ended => .ok r

end ChunkReader

/-- The body that octets hold in chunks.  What follows its end does not count. -/
def unchunk (b : Bytes) : Except TransferFault Bytes :=
  match b.foldlM ChunkReader.step {} with
  | .error fault => .error fault
  | .ok r => if r.stage = .ended then .ok r.done.reverse else .error .incomplete

end OperatorNames.Transfer
