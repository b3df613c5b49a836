import BlitDevice.Deflate.Store
import BlitDevice.Png.Decode

/-!
# Encoding

* `Image.filtered` — the rows of an image, each without a filter.
* `encode` — a stream that holds the image: header, image data, end.
-/

set_option autoImplicit false

namespace BlitDevice.Png

/-- The rows of an image, each after the byte that says it has no filter. -/
def Image.filtered (i : Image) : Bytes :=
  let rowBytes := i.header.rowBytes i.size.cols
  (List.range i.size.rows).foldl
    (fun out y => (out.push 0).appendList (i.samples.slice (y * rowBytes) rowBytes)) #[]

/-- The parts of the image data, one chunk for each. -/
def Image.parts (i : Image) : List (List UInt8) := Deflate.store i.filtered

/-- A stream that holds the image. -/
def encode (i : Image) : Except EncodeError (List UInt8) :=
  if i.size.cols = 0 then .error .zeroWidth
  else if i.size.rows = 0 then .error .zeroHeight
  else
    .ok (signature ++ Chunk.write Chunk.headerTag i.header.toBytes ++
      i.parts.flatMap (Chunk.write Chunk.imageDataTag) ++ Chunk.write Chunk.imageEndTag [])

end BlitDevice.Png
