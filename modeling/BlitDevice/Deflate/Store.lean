import BlitDevice.Bytes
import BlitDevice.Deflate.Checksum
import BlitDevice.Deflate.Parts
import BlitDevice.Number.Word

/-!
# Storing

* `store` — a wrapped stream of stored blocks, in parts: its header, one part for each block, and
  its checksum.
-/

set_option autoImplicit false

namespace BlitDevice.Deflate

/-- No block is longer. Each can be decoded in one stride. -/
def blockLimit : Nat := stride

/-- How many blocks hold so many bytes; one at least. -/
def blockCount (size : Nat) : Nat := max 1 ((size + blockLimit - 1) / blockLimit)

/-- A number of two bytes, the low one first. -/
def shortBytes (n : Nat) : List UInt8 := [UInt8.ofNat n, UInt8.ofNat (n / 256)]

/-- A stored block: whether it is the last, its length, the complement of that, and its bytes. -/
def storedBlock (last : Bool) (block : List UInt8) : List UInt8 :=
  let length := shortBytes block.length
  (if last then 1 else 0) :: length ++ length.map (~~~ ·) ++ block

/-- The blocks of a buffer. -/
def storedBlocks (data : Bytes) : List (List UInt8) :=
  let count := blockCount data.size
  (List.range count).map fun i =>
    storedBlock (i + 1 == count) (data.slice (i * blockLimit) blockLimit)

/-- The header of a stream that was compressed the quick way. -/
def streamHeader : List UInt8 := [0x78, 0x01]

/-- A wrapped stream, in parts. -/
def store (data : Bytes) : List (List UInt8) :=
  streamHeader :: storedBlocks data ++ [wordBytes (adler32 data.toList)]

end BlitDevice.Deflate
