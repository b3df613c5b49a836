/-!
# The checksum of a compressed stream

* `adler32` — the sum of all bytes, and the sum of those sums, as the two halves of a word.
-/

set_option autoImplicit false

namespace BlitDevice.Deflate

/-- The sums are taken modulo this prime. -/
def adlerPrime : Nat := 65521

/-- Takes one byte into the sum of bytes and the sum of sums. -/
def adlerByte (s : Nat × Nat) (b : UInt8) : Nat × Nat :=
  let low := (s.1 + b.toNat) % adlerPrime
  (low, (s.2 + low) % adlerPrime)

def adler32 (message : List UInt8) : UInt32 :=
  let (low, high) := message.foldl adlerByte (1, 0)
  UInt32.ofNat (high <<< 16 + low)

end BlitDevice.Deflate
