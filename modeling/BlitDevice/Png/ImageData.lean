import BlitDevice.Deflate.Parts
import BlitDevice.Png.Interlace
import BlitDevice.Png.Preamble

/-!
# Image data

The image stands in chunks that follow each other, as a compressed stream in parts.

* `checkData` — whether the chunks are sound, and something comes after them.
* `inflate` — the bytes of the image, from as many parts as it takes.
-/

set_option autoImplicit false

namespace BlitDevice.Png

/-- Goes through the chunks of the image. They are sound, and another chunk comes after them, or the
length and tag of one. -/
def checkData : List Chunk → Except DecodeError Unit
  | [] => .error .endOfData
  | c :: cs =>
    if c.kind ≠ .imageData then .ok ()
    else
      match c.ending with
      | .sound => checkData cs
      | .damaged => .error .chunkChecksum
      | .overlong => .error .chunkLength
      | .cut | .bare => .error .endOfData

/-- The bytes, if there are enough. -/
def ensureBytes (data : Bytes) (available enough : Nat) : Except DecodeError Bytes :=
  if enough ≤ available then .ok data else .error .imageMissing

/-- Takes in parts until `enough` bytes are released. A part is taken in before its chunk is found
to be sound. Where the chunks break off, all bytes that are there count; where another chunk
follows, the stream has to be at its end. -/
def inflate (enough : Nat) (s : Deflate.Inflater) : List Chunk → Except DecodeError Bytes
  | [] => ensureBytes s.out s.filled enough
  | c :: cs =>
    if c.kind ≠ .imageData then
      match s.finish? with
      | none => .error .deflate
      | some s => ensureBytes s.out s.filled enough
    else if c.ending = .overlong then .error .chunkLength
    else
      match if c.ending = .bare then some s else s.feed? enough c.data with
      | none => .error .deflate
      | some s =>
        if enough ≤ s.released then .ok s.out
        else if c.ending = .damaged then .error .chunkChecksum
        else inflate enough s cs

end BlitDevice.Png
