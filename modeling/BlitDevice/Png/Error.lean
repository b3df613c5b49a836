/-!
# What can be wrong with a PNG stream

* `Png.DecodeError` — why a stream holds no image.
* `Png.EncodeError` — why an image has no stream.
-/

set_option autoImplicit false

namespace BlitDevice.Png

/-- Why a stream holds no image. -/
inductive DecodeError where
  | badSignature
  | endOfData
  | chunkBeforeHeader
  | chunkLength
  | chunkChecksum
  | chunkRepeated
  | criticalChunk
  | badHeader
  | rowTooLong
  | frameControl
  | codePoints
  | paletteMissing
  | imageMissing
  | deflate
  | rowFilter
  deriving DecidableEq, Repr

/-- Why an image has no stream. -/
inductive EncodeError where
  | zeroWidth
  | zeroHeight
  deriving DecidableEq, Repr

def DecodeError.message : DecodeError → String
  | badSignature => "the signature is wrong"
  | endOfData => "the stream ends too early"
  | chunkBeforeHeader => "a chunk stands before the header"
  | chunkLength => "a chunk has the wrong length"
  | chunkChecksum => "a chunk does not match its checksum"
  | chunkRepeated => "a chunk stands twice that may stand once"
  | criticalChunk => "a critical chunk is not known"
  | badHeader => "the header is not valid"
  | rowTooLong => "a row is too long"
  | frameControl => "the frames are not valid"
  | codePoints => "the code points of the colours are not valid"
  | paletteMissing => "there is no palette"
  | imageMissing => "there is not enough image data"
  | deflate => "the compressed data is not valid"
  | rowFilter => "a row names no filter"

def EncodeError.message : EncodeError → String
  | zeroWidth => "the width is zero"
  | zeroHeight => "the height is zero"

end BlitDevice.Png
