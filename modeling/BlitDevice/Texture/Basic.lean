import BlitDevice.Bytes
import BlitDevice.Texture.Config
import BlitDevice.Texture.Window

/-!
# Textures

* `Texture` — a buffer that holds every level of an image, one after the other, rows top to bottom
  and pixels left to right, with nothing between.
* `Texture.create` — from a configuration and, if given, initial bytes.
* `Texture.generate` — from a rule that gives each pixel.
* `Texture.get?`, `Texture.set?` — one pixel of level 0; outside the texture there is none.
-/

set_option autoImplicit false

namespace BlitDevice

/-- A created texture: its format stores pixels one by one, it has a level, and its buffer holds
exactly the pixels of its levels. -/
structure Texture where
  size : Size
  levels : UInt32
  format : PixelFormat
  usage : Usage
  name : String
  bytes : Bytes
  plain : format.isCompressed = false
  levels_pos : 0 < levels.toNat
  bytes_size : bytes.size = format.bytesPerPixel * size.cols * size.rows * levels.toNat
  addressable : bytes.size < 0x10000000000000000
  deriving DecidableEq

namespace Texture

/-- The texture without pixels. -/
def empty : Texture where
  size := ⟨0, 0⟩
  levels := 1
  format := .r8
  usage := .static
  name := ""
  bytes := #[]
  plain := rfl
  levels_pos := by decide
  bytes_size := rfl
  addressable := by decide

instance : Inhabited Texture := ⟨empty⟩

/-- The texture of a configuration over a buffer of the right size. -/
def ofBytes (config : TextureConfig) (bytes : Bytes)
    (h : byteCount config.format config.size config.levels = .ok bytes.size) : Texture where
  size := config.size
  levels := atLeastOne config.levels
  format := config.format
  usage := config.usage
  name := config.name
  bytes := bytes
  plain := (byteCount_eq_ok h).1
  levels_pos := atLeastOne_pos config.levels
  bytes_size := (byteCount_eq_ok h).2.1
  addressable := (byteCount_eq_ok h).2.2

/-- Creates a texture. Without initial bytes it is all zero. -/
def create (config : TextureConfig) (data : Option Bytes) : Except Error Texture :=
  match h : byteCount config.format config.size config.levels with
  | .error e => .error e
  | .ok count =>
    match data with
    | none => .ok (ofBytes config (Array.replicate count 0) (by rw [h, Array.size_replicate]))
    | some bytes =>
      if hb : bytes.size = count then .ok (ofBytes config bytes (by rw [h, hb]))
      else .error (.invalidInitialData count bytes.size)

/-- Creates a texture with one level from a rule that gives the bytes of each pixel. -/
def generate (size : Size) (format : PixelFormat) (rule : Texel → List UInt8) :
    Except Error Texture :=
  match byteCount format size 1 with
  | .error e => .error e
  | .ok _ =>
    create { size, format }
      (some ((Window.covering size).fold (fun (b : Bytes) p => b.appendList (rule p)) #[]))

/-- Bytes of one pixel. -/
def bytesPerPixel (t : Texture) : Nat := t.format.bytesPerPixel

/-- Bytes of one row. -/
def lineSize (t : Texture) : Nat := t.bytesPerPixel * t.size.cols

/-- Bytes of level 0. -/
def level0Size (t : Texture) : Nat := t.lineSize * t.size.rows

/-- The bytes of level 0. -/
def level0 (t : Texture) : Bytes := t.bytes.extract 0 t.level0Size

theorem bytesPerPixel_pos (t : Texture) : 0 < t.bytesPerPixel :=
  (PixelFormat.bytesPerPixel_bounds t.plain).1

theorem size_bytes (t : Texture) : t.bytes.size = t.level0Size * t.levels.toNat := t.bytes_size

/-- Level 0 is the first part of the buffer. -/
theorem level0Size_le (t : Texture) : t.level0Size ≤ t.bytes.size := by
  rw [t.size_bytes]
  exact Nat.le_mul_of_pos_right _ t.levels_pos

theorem size_level0 (t : Texture) : t.level0.size = t.level0Size := by
  have := t.level0Size_le
  simp only [level0, Array.size_extract]; omega

/-- The same texture over another buffer of the same size. -/
def withBytes (t : Texture) (b : Bytes) (h : b.size = t.bytes.size) : Texture :=
  { t with
    bytes := b
    bytes_size := h.trans t.bytes_size
    addressable := by rw [h]; exact t.addressable }

/-- The same texture with level 0 replaced. -/
def withLevel0 (t : Texture) (plane : Bytes) (h : plane.size = t.level0Size) : Texture :=
  t.withBytes (plane ++ t.bytes.extract t.level0Size) (by
    have := t.level0Size_le
    simp only [Array.size_append, Array.size_extract]; omega)

/-- Writes bytes into level 0, if they fit into it there. -/
def overwriteLevel0? (t : Texture) (start : Nat) (values : List UInt8) : Option Texture :=
  if start + values.length ≤ t.level0Size then
    some (t.withBytes (t.bytes.overwrite start values) (Bytes.size_overwrite _ _ _))
  else none

/-- Where the bytes of a pixel start. -/
def offset (t : Texture) (p : Texel) : Nat := (t.size.cols * p.y + p.x) * t.bytesPerPixel

def contains (t : Texture) (p : Texel) : Bool := p.x < t.size.cols && p.y < t.size.rows

/-- The bytes of a pixel of level 0. -/
def pixel (t : Texture) (p : Texel) : List UInt8 := t.bytes.slice (t.offset p) t.bytesPerPixel

/-- The bytes of a pixel, if the texture has it. -/
def get? (t : Texture) (p : Texel) : Option (List UInt8) :=
  if t.contains p then some (t.pixel p) else none

/-- The texture with one pixel replaced, if it has that pixel and the bytes are as many. -/
def set? (t : Texture) (p : Texel) (px : List UInt8) : Option Texture :=
  if t.contains p && px.length == t.bytesPerPixel then
    some (t.withBytes (t.bytes.overwrite (t.offset p) px) (Bytes.size_overwrite _ _ _))
  else none

/-- The configuration that describes the texture. -/
def config (t : Texture) : TextureConfig := ⟨t.size, t.format, t.levels, t.usage, t.name⟩

/-- How a log shows a texture. -/
def text (t : Texture) : String :=
  bracedOpen "Texture" [("debug_name", quoted t.name), ("width", toString t.size.cols),
    ("height", toString t.size.rows), ("levels", toString t.levels), ("format", t.format.name),
    ("usage", t.usage.name)]

end Texture

end BlitDevice
