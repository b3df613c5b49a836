/-!
# The checksum of a chunk

* `crc32` — the remainder of a message, taken bit by bit; every chunk ends with one.
-/

set_option autoImplicit false

namespace BlitDevice.Png

/-- The divisor, low bit first. -/
def crcDivisor : UInt32 := 0xedb88320

/-- Takes one bit out of a remainder. -/
def crcBit (c : UInt32) : UInt32 :=
  if c % 2 = 1 then crcDivisor ^^^ (c >>> 1) else c >>> 1

/-- Takes one byte into a remainder. -/
def crcByte (c : UInt32) (b : UInt8) : UInt32 :=
  (List.range 8).foldl (fun c _ => crcBit c) (c ^^^ b.toUInt32)

def crc32 (message : List UInt8) : UInt32 :=
  message.foldl crcByte 0xffffffff ^^^ 0xffffffff

end BlitDevice.Png
