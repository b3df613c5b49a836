import BlitDevice.Bytes
import BlitDevice.Png.Header

/-!
# Images

* `Image` — the samples of an image, row by row and left to right.
* `Image.pixel` — the samples of one pixel, for samples of one byte.
-/

set_option autoImplicit false

namespace BlitDevice.Png

/-- The samples of an image; a row starts at a new byte. -/
structure Image where
  size : Size
  color : ColorType
  depth : BitDepth
  samples : Bytes
  deriving DecidableEq, Repr

namespace Image

/-- The header of the image, not interlaced. -/
def header (i : Image) : Header := ⟨i.size, i.depth, i.color, false⟩

/-- The samples of the pixel with a given number, for samples of one byte. -/
def pixel (i : Image) (index : Nat) : List UInt8 :=
  i.samples.slice (index * i.color.channels) i.color.channels

end Image

end BlitDevice.Png
