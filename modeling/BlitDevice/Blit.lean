import BlitDevice.Color
import BlitDevice.Log
import BlitDevice.Texture.Paint

/-!
# Blits

* `PixelOp` — what is done to a pixel on its way from one format to another, and
  `PixelOp.between?` the pairs of formats there is an operation for.
* `sourceCoord` — the nearest texel along one axis: `origin + ⌊offset * extent / span⌋`, held
  inside the source.
* `Rect.visible` — the part of a rectangle that lies inside a texture.
* `resample` — every visible texel gets its pixel from the source; `blitByPixel` does so if the
  formats have an operation.
* `blit` — all of a texture onto one of the same size and format is copied as it stands; anything
  else is resampled.
-/

set_option autoImplicit false

namespace BlitDevice

/-- What is done to a pixel. -/
inductive PixelOp where
  | keep
  | fromBgrx
  deriving DecidableEq, Repr

namespace PixelOp

/-- The pairs of formats that have an operation. -/
def between? : PixelFormat → PixelFormat → Option PixelOp
  | .rgba, .rgba => some keep
  | .bgrx, .rgba => some fromBgrx
  | _, _ => none

/-- The four bytes a source pixel becomes. -/
def convert? : PixelOp → List UInt8 → Option Rgba8
  | keep, src => Rgba8.ofList? src
  | fromBgrx, src => (Bgrx8.ofList? src).map Bgrx8.toRgba8

/-- Writes a source pixel over the first four bytes of a pixel. Both have four bytes at least. -/
def write? (op : PixelOp) (dst src : List UInt8) : Option (List UInt8) :=
  if dst.length < 4 then none else (op.convert? src).map fun c => c.toList ++ dst.drop 4

end PixelOp

/-- Maps an offset in `0 … span` along one axis to a coordinate of a source of the given size. -/
def sourceCoord (offset origin extent span : Int) (size : Nat) : Nat :=
  (max 0 (min (origin + offset * extent / span) (size - 1))).toNat

/-- The columns and rows of a texture that a rectangle reaches. -/
def Rect.visible (r : Rect) (s : Size) : Window where
  left := (max r.x 0).toNat
  right := (min (r.x + r.width) s.cols).toNat
  top := (max r.y 0).toNat
  bottom := (min (r.y + r.height) s.rows).toNat

/-- The texel of the source that a texel of the destination is taken from. -/
def sourceTexel (src : Size) (srcRect dstRect : Rect) (p : Texel) : Texel where
  x := sourceCoord (p.x - dstRect.x) srcRect.x srcRect.width dstRect.width src.cols
  y := sourceCoord (p.y - dstRect.y) srcRect.y srcRect.height dstRect.height src.rows

/-- Gives every visible texel of the destination its pixel from the source. -/
def resample (op : PixelOp) (src dst : Texture) (srcRect dstRect : Rect) : Texture :=
  dst.paint (dstRect.visible dst.size) fun p old =>
    (op.write? old (src.pixel (sourceTexel src.size srcRect dstRect p))).getD old

/-- All of a texture goes onto all of one of the same size and format. -/
def IsWholeCopy (src dst : Texture) (srcRect dstRect : Rect) : Prop :=
  src.format = dst.format ∧ src.size = dst.size ∧
    srcRect = Rect.covering src.size ∧ dstRect = Rect.covering dst.size

instance (src dst : Texture) (srcRect dstRect : Rect) :
    Decidable (IsWholeCopy src dst srcRect dstRect) :=
  inferInstanceAs (Decidable (_ ∧ _ ∧ _ ∧ _))

theorem IsWholeCopy.size_level0 {src dst : Texture} {srcRect dstRect : Rect}
    (h : IsWholeCopy src dst srcRect dstRect) : src.level0.size = dst.level0Size := by
  rw [Texture.size_level0, Texture.level0Size, Texture.level0Size, Texture.lineSize,
    Texture.lineSize, Texture.bytesPerPixel, Texture.bytesPerPixel, h.1, h.2.1]

/-- There is nothing to write, or nothing to write it from. -/
def NothingToBlit (src : Texture) (dstRect : Rect) : Prop :=
  dstRect.IsEmpty ∨ src.size.cols = 0 ∨ src.size.rows = 0

instance (src : Texture) (dstRect : Rect) : Decidable (NothingToBlit src dstRect) :=
  inferInstanceAs (Decidable (_ ∨ _ ∨ _))

/-- Resamples, if the formats have an operation and there is anything to write: the destination
afterwards, and what was told. -/
def blitByPixel (src dst : Texture) (srcRect dstRect : Rect) : Except Error (Texture × Log) :=
  match PixelOp.between? src.format dst.format with
  | none => .error (.unsupportedFormatPair src.format dst.format)
  | some op =>
    if NothingToBlit src dstRect then .ok (dst, [])
    else .ok (resample op src dst srcRect dstRect, [.blitting srcRect dstRect])

/-- Copies a rectangle of one texture into a rectangle of another, scaled to fit: the destination
afterwards, and what was told. -/
def blit (src dst : Texture) (srcRect dstRect : Rect) : Except Error (Texture × Log) :=
  if h : IsWholeCopy src dst srcRect dstRect then
    .ok (dst.withLevel0 src.level0 h.size_level0, [])
  else blitByPixel src dst srcRect dstRect

end BlitDevice
