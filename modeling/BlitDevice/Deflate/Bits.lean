import BlitDevice.Bytes

/-!
# Reading bits

* `BitReader` — a place in a byte buffer, counted in bits; the low bit of a byte comes first.
* `Read`, `Stop` — reading something from such a place on, and why that can fail.
* `Read.bits` — a number of several bits, low bit first.
* `Read.wholeBytes` — whole bytes, from the next full byte on.

What is read is gone: `Read.Shrinks` and `Read.Consumes` say so of a reader in terms of
`BitReader.left`, and the lemmas that follow them put it together for readers made of others.
-/

set_option autoImplicit false

namespace BlitDevice.Deflate

/-- A place in a byte buffer. -/
structure BitReader where
  bytes : Bytes
  pos : Nat

namespace BitReader

/-- Bits not read yet. -/
def left (r : BitReader) : Nat := 8 * r.bytes.size - r.pos

/-- The first bit of the next byte that is not begun. -/
def align (r : BitReader) : BitReader := { r with pos := (r.pos + 7) / 8 * 8 }

/-- The same place with more bytes at the end. -/
def append (r : BitReader) (more : List UInt8) : BitReader :=
  { r with bytes := r.bytes.appendList more }

theorem left_align (r : BitReader) : r.align.left ≤ r.left := by
  simp only [left, align]; omega

end BitReader

/-- Why reading does not go on. -/
inductive Stop where
  /-- More bits would have to follow. -/
  | short
  /-- The bits stand for nothing, whatever follows. -/
  | invalid
  deriving DecidableEq, Repr

/-- Reads something from a place on. -/
abbrev Read := StateT BitReader (Except Stop)

namespace Read

variable {α β : Type}

/-- Reads nothing. -/
def stop (why : Stop) : Read α := fun _ => .error why

/-- Goes on if so many bits are there. -/
def need (count : Nat) : Read Unit := fun r =>
  if count ≤ r.left then .ok ((), r) else .error .short

/-- Goes on if a condition holds that no further bits could mend. -/
def ensure (condition : Bool) : Read Unit := if condition then pure () else stop .invalid

/-- The next bit. -/
def bit : Read Nat := fun r =>
  if h : r.pos / 8 < r.bytes.size then
    .ok (r.bytes[r.pos / 8].toNat >>> (r.pos % 8) % 2, { r with pos := r.pos + 1 })
  else .error .short

/-- A number of so many bits, low bit first. -/
def bits : Nat → Read Nat
  | 0 => pure 0
  | n + 1 => do
    let b ← bit
    let v ← bits n
    return b + 2 * v

/-- Whole bytes, from the next one that is not begun. -/
def wholeBytes (count : Nat) : Read (List UInt8) := fun r =>
  let r := r.align
  if r.pos / 8 + count ≤ r.bytes.size then
    .ok (r.bytes.slice (r.pos / 8) count, { r with pos := r.pos + 8 * count })
  else .error .short

/-- Reading on from where a reader stopped. -/
theorem bind_apply (p : Read α) (f : α → Read β) (r : BitReader) :
    (p >>= f) r = match p r with
      | .error e => .error e
      | .ok (a, r') => f a r' := by
  simp only [bind, StateT.bind, Except.bind]
  cases p r <;> rfl

/-- What is read leaves no more bits than there were. -/
def Shrinks (p : Read α) : Prop := ∀ r a r', p r = .ok (a, r') → r'.left ≤ r.left

/-- Something is read in any case. -/
def Consumes (p : Read α) : Prop := ∀ r a r', p r = .ok (a, r') → r'.left < r.left

theorem Consumes.shrinks {p : Read α} (h : Consumes p) : Shrinks p :=
  fun r a r' e => Nat.le_of_lt (h r a r' e)

theorem shrinks_pure (a : α) : Shrinks (pure a : Read α) := fun _ _ _ e => by
  cases e; exact Nat.le_refl _

theorem consumes_stop (why : Stop) : Consumes (stop why : Read α) := fun _ _ _ e => by cases e

theorem shrinks_need (count : Nat) : Shrinks (need count) := fun _ _ _ e => by
  unfold need at e
  split at e
  · cases e; exact Nat.le_refl _
  · cases e

theorem shrinks_ensure (condition : Bool) : Shrinks (ensure condition) := by
  cases condition
  · exact (consumes_stop .invalid).shrinks
  · exact shrinks_pure ()

/-- A reader followed by others shrinks if all of them do. -/
theorem shrinks_bind {p : Read α} {f : α → Read β} (hp : Shrinks p) (hf : ∀ a, Shrinks (f a)) :
    Shrinks (p >>= f) := fun r b r' e => by
  rw [bind_apply] at e
  split at e
  · cases e
  · rename_i a r1 h
    exact Nat.le_trans (hf a r1 b r' e) (hp r a r1 h)

theorem Consumes.bind {p : Read α} {f : α → Read β} (hp : Consumes p) (hf : ∀ a, Shrinks (f a)) :
    Consumes (p >>= f) := fun r b r' e => by
  rw [bind_apply] at e
  split at e
  · cases e
  · rename_i a r1 h
    exact Nat.lt_of_le_of_lt (hf a r1 b r' e) (hp r a r1 h)

theorem Shrinks.bind {p : Read α} {f : α → Read β} (hp : Shrinks p) (hf : ∀ a, Consumes (f a)) :
    Consumes (p >>= f) := fun r b r' e => by
  rw [bind_apply] at e
  split at e
  · cases e
  · rename_i a r1 h
    exact Nat.lt_of_lt_of_le (hf a r1 b r' e) (hp r a r1 h)

theorem consumes_bit : Consumes bit := fun r b r' e => by
  unfold bit at e
  split at e
  · cases e
    simp only [BitReader.left]; omega
  · cases e

theorem shrinks_bits (n : Nat) : Shrinks (bits n) := by
  induction n with
  | zero => exact shrinks_pure 0
  | succ n ih =>
    exact shrinks_bind consumes_bit.shrinks fun _ => shrinks_bind ih fun _ => shrinks_pure _

theorem consumes_bits (n : Nat) : Consumes (bits (n + 1)) :=
  consumes_bit.bind fun _ => shrinks_bind (shrinks_bits n) fun _ => shrinks_pure _

theorem consumes_wholeBytes (n : Nat) : Consumes (wholeBytes (n + 1)) := fun r v r' e => by
  unfold wholeBytes at e
  dsimp only at e
  split at e
  · cases e
    have := r.left_align
    simp only [BitReader.left, BitReader.align] at *; omega
  · cases e

end Read

end BlitDevice.Deflate
