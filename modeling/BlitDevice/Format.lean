/-!
# Pixel formats

* `PixelFormat` — the eighteen encodings a pixel can have.
* `PixelFormat.bytesPerPixel?` — the whole bytes of one pixel; block-compressed formats have none.
* `PixelFormat.rgbOffsets?` — where red, green and blue sit in the packed 8-bit colour formats.
-/

set_option autoImplicit false

namespace BlitDevice

/-- The encoding of one pixel. -/
inductive PixelFormat where
  | a8 | r8 | r8g8 | r16 | r16f | r32f | rg16f | rg32f | rgba | bgrx | bgra | r10g10b10a2
  | rgba16 | rgba16f | rgba32f | dxt1 | dxt3 | dxt5
  deriving DecidableEq, Repr

namespace PixelFormat

/-- Every format, in order of declaration. -/
def all : List PixelFormat :=
  [a8, r8, r8g8, r16, r16f, r32f, rg16f, rg32f, rgba, bgrx, bgra, r10g10b10a2, rgba16, rgba16f,
    rgba32f, dxt1, dxt3, dxt5]

/-- The written name. -/
def name : PixelFormat → String
  | a8 => "A8"
  | r8 => "R8"
  | r8g8 => "R8G8"
  | r16 => "R16"
  | r16f => "R16F"
  | r32f => "R32F"
  | rg16f => "RG16F"
  | rg32f => "RG32F"
  | rgba => "RGBA"
  | bgrx => "BGRX"
  | bgra => "BGRA"
  | r10g10b10a2 => "R10G10B10A2"
  | rgba16 => "RGBA16"
  | rgba16f => "RGBA16F"
  | rgba32f => "RGBA32F"
  | dxt1 => "DXT1"
  | dxt3 => "DXT3"
  | dxt5 => "DXT5"

/-- Storage per pixel in bits; an average over the block for compressed formats. -/
def bitsPerPixel : PixelFormat → Nat
  | a8 | r8 => 8
  | r8g8 | r16 | r16f => 16
  | r32f | rg16f | rgba | bgrx | bgra | r10g10b10a2 => 32
  | rg32f | rgba16 | rgba16f => 64
  | rgba32f => 128
  | dxt1 => 4
  | dxt3 | dxt5 => 8

/-- Whether pixels are stored in compressed blocks. -/
def isCompressed : PixelFormat → Bool
  | dxt1 | dxt3 | dxt5 => true
  | _ => false

/-- Whether the format is one byte of luma. -/
def isLuma : PixelFormat → Bool
  | r8 => true
  | _ => false

/-- Bytes of one pixel, for formats that store pixels one by one. -/
def bytesPerPixel? (f : PixelFormat) : Option Nat :=
  if f.isCompressed then none else some (f.bitsPerPixel / 8)

/-- Bytes of one pixel, zero where a pixel has no bytes of its own. -/
def bytesPerPixel (f : PixelFormat) : Nat := f.bytesPerPixel?.getD 0

/-- Byte positions of red, green and blue. -/
def rgbOffsets? : PixelFormat → Option (Nat × Nat × Nat)
  | rgba => some (0, 1, 2)
  | bgra | bgrx => some (2, 1, 0)
  | _ => none

theorem mem_all (f : PixelFormat) : f ∈ all := by cases f <;> decide

theorem bytesPerPixel?_eq_none_iff {f : PixelFormat} :
    f.bytesPerPixel? = none ↔ f.isCompressed = true := by
  cases f <;> decide

theorem bytesPerPixel?_eq_some {f : PixelFormat} {n : Nat} (h : f.bytesPerPixel? = some n) :
    f.bytesPerPixel = n := by
  simp [bytesPerPixel, h]

/-- A pixel that is stored on its own takes between 1 and 16 bytes. -/
theorem bytesPerPixel_bounds {f : PixelFormat} (h : f.isCompressed = false) :
    0 < f.bytesPerPixel ∧ f.bytesPerPixel ≤ 16 := by
  revert h; cases f <;> decide

end PixelFormat

end BlitDevice
