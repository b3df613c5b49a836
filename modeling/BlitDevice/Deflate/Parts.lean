import BlitDevice.Deflate.Inflate

/-!
# Streams in parts

A stream comes in parts, and is decoded by strides. Of a part that was looked at to its end nothing
more is decoded, until another part comes or it is known that none does.

* `Inflater.advance` — decodes a stride.
* `Inflater.feed?` — takes in a part, and decodes until it is used up or enough bytes are released.
* `Inflater.finish?` — decodes the end of a stream.
* `Inflater.released` — how many bytes are released. Those that a repetition could reach back to are
  not, as long as more can come.
-/

set_option autoImplicit false

namespace BlitDevice.Deflate

/-- Decoding goes on by so many bytes at a time. -/
def stride : Nat := 8192

/-- Repetitions reach back so far. -/
def window : Nat := 32768

namespace Inflater

/-- All bytes that are wanted are there, or there are no more. -/
def isComplete (s : Inflater) : Bool := s.wanted ≤ s.filled || s.place matches .ended

/-- So many bytes are not changed or looked up any more. -/
def released (s : Inflater) : Nat := if s.isComplete then s.filled else s.filled - window

/-- The parts were looked at to their end. -/
def isUsedUp (s : Inflater) : Bool := s.reader.bytes.size ≤ s.seen

/-- Decodes a stride, or as far as the bits go. -/
def advance (s : Inflater) : Option Inflater :=
  { s with limit := min (s.filled + stride) s.wanted }.look.run

theorem bounds_advance {s t : Inflater} (h : s.advance = some t) :
    t.wanted = s.wanted ∧ t.limit = min (s.filled + stride) s.wanted := bounds_run h

/-- Decodes by strides until the parts are used up or `enough` bytes are released. -/
def decode? (s : Inflater) (enough : Nat) : Option Inflater :=
  match _h : s.advance with
  | none => none
  | some t =>
    if t.isFull ∧ ¬t.isComplete ∧ ¬t.isUsedUp ∧ t.released < enough then t.decode? enough
    else some t
termination_by s.wanted - s.filled
decreasing_by
  rename_i go
  have hb := bounds_advance _h
  have hf : t.limit ≤ t.out.size := by simpa [isFull] using go.1
  have hc : t.filled < t.wanted := by
    have := go.2.1
    simp only [isComplete, Bool.or_eq_true, decide_eq_true_eq, not_or] at this
    omega
  simp only [filled, stride] at *
  omega

/-- Takes in a part. -/
def feed? (s : Inflater) (enough : Nat) (part : List UInt8) : Option Inflater :=
  { s with reader := s.reader.append part }.decode? enough

/-- Decodes the end of a stream. It has to be there. -/
def finish? (s : Inflater) : Option Inflater :=
  match s.advance with
  | none => none
  | some t => if t.place matches .ended then some t else none

end Inflater

end BlitDevice.Deflate
