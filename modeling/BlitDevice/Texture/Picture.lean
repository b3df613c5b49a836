import BlitDevice.Color
import BlitDevice.Png.Encode
import BlitDevice.Texture.Basic

/-!
# Textures as images

* `Texture.toImage` — level 0 of a colour or luma texture of one byte per channel.
* `Texture.ofImage` — a texture with the colours of an image; without alpha they are opaque.
* `Texture.toPng`, `Texture.ofPng?` — the same through an encoded stream.
-/

set_option autoImplicit false

namespace BlitDevice

/-- How the pixels of a format are read as colours, if they hold one. -/
def PixelFormat.toRgba? : PixelFormat → Option (List UInt8 → List UInt8)
  | .rgba => some id
  | .bgra => some fun p => [p.getD 2 0, p.getD 1 0, p.getD 0 0, p.getD 3 0]
  | .bgrx => some fun p => [p.getD 2 0, p.getD 1 0, p.getD 0 0, 0xff]
  | _ => none

/-- The image type of a format, and what its pixels become. -/
def PixelFormat.imageType? (f : PixelFormat) :
    Option (Png.ColorType × (List UInt8 → List UInt8)) :=
  match f.toRgba?, f with
  | some convert, _ => some (.rgba, convert)
  | none, .r8 | none, .a8 => some (.gray, id)
  | none, _ => none

/-- The colour of an image pixel; the pixel of an image with a palette has none of its own. -/
def Png.ColorType.toRgba? : Png.ColorType → Option (List UInt8 → List UInt8)
  | .gray => some fun p => [p.getD 0 0, p.getD 0 0, p.getD 0 0, 0xff]
  | .grayAlpha => some fun p => [p.getD 0 0, p.getD 0 0, p.getD 0 0, p.getD 1 0]
  | .rgb => some fun p => [p.getD 0 0, p.getD 1 0, p.getD 2 0, 0xff]
  | .rgba => some fun p => [p.getD 0 0, p.getD 1 0, p.getD 2 0, p.getD 3 0]
  | .indexed => none

namespace Texture

/-- The pixels of a texture, each turned into another, in the order of the buffer. -/
def convertPixels (t : Texture) (convert : List UInt8 → List UInt8) : Bytes :=
  (Window.covering t.size).fold (fun (b : Bytes) p => b.appendList (convert (t.pixel p))) #[]

/-- Level 0 as an image. -/
def toImage (t : Texture) : Except Error Png.Image :=
  match t.format.imageType? with
  | some (color, convert) => .ok ⟨t.size, color, .eight, t.convertPixels convert⟩
  | none => .error (.unsupportedFormat t.format)

/-- Level 0 as an encoded stream. -/
def toPng (t : Texture) : Except Error (List UInt8) :=
  match t.toImage with
  | .error e => .error e
  | .ok image =>
    match Png.encode image with
    | .ok bytes => .ok bytes
    | .error cause => .error (.pngEncode cause)

/-- A texture with the colours of an image. -/
def ofImage (image : Png.Image) (name : String) : Except Error Texture :=
  if image.depth ≠ .eight then
    .error (.unsupportedPng s!"bit depth {image.depth.name} after expansion")
  else
    match image.color.toRgba? with
    | none => .error (.unsupportedPng "palette was not expanded")
    | some convert =>
      let pixels := (List.range (image.size.cols * image.size.rows)).foldl
        (fun (b : Bytes) i => b.appendList (convert (image.pixel i))) #[]
      create { size := image.size, format := .rgba, name } (some pixels)

/-- A texture with the colours of an image, if decoding came to one. -/
def ofReading (picture : Png.Reading) (name : String) : Except Error Texture :=
  match picture with
  | .ok image => ofImage image name
  | .error cause => .error (.pngDecode cause)

/-- A texture with the colours of an encoded image, where decoding has an answer. -/
def ofPng? (stream : List UInt8) (name : String) : Option (Except Error Texture) :=
  (Png.decode? stream).map fun picture => ofReading picture name

end Texture

end BlitDevice
