import BlitDevice.Log
import BlitDevice.Matrix
import BlitDevice.Texture.Paint

/-!
# Luma planes

* `convertPlane` — every pixel of a plane is computed from the source pixel at a multiple of its
  coordinates.
* `lumaByte` — a weighted sum of red, green and blue plus an offset, as a byte. It is cut off, not
  rounded, after a slack of `0.00001` is added.
* `convertToLuma` — the luma plane of a colour texture of the same size.
-/

set_option autoImplicit false

namespace BlitDevice

/-- Gives every pixel of `dst` the value `op` makes of the one it has and of the source pixel at
`divisor` times its coordinates. -/
def convertPlane (src dst : Texture) (divisor : Nat) (op : List UInt8 → List UInt8 → List UInt8) :
    Texture :=
  dst.paint (Window.covering dst.size) fun p old =>
    op old (src.pixel ⟨p.x * divisor, p.y * divisor⟩)

/-- What is added before a scaled value is cut off, so that weights that sum to one up to rounding
keep white at 255. -/
def lumaSlack : Float := 1.0e-5

/-- Moves a number into `0 … 255`; what is no number stays. -/
def clampByte (v : Float) : Float := if v < 0.0 then 0.0 else if 255.0 < v then 255.0 else v

/-- A number from 0 to 1 as a byte, cut off. -/
def unormTruncate (v : Float) : UInt8 := (clampByte (v * 255.0 + lumaSlack)).toUInt8

/-- A byte as a number from 0 to 1. -/
def unitOf (b : UInt8) : Float := Float.ofNat b.toNat / 255.0

/-- The luma of a colour: three weights, and an offset in the fourth place. -/
def lumaByte (color : Vec4 Float32) (r g b : UInt8) : UInt8 :=
  let weight (v : Float32) : Float := (Binary32.ofFloat v).widen
  unormTruncate
    (unitOf r * weight color.x + unitOf g * weight color.y + unitOf b * weight color.z +
      weight color.w)

/-- Computes the luma plane of `dst` from the colours of `src`. -/
def convertToLuma (src dst : Texture) (color : Vec4 Float32) : Except Error Texture :=
  if src.size ≠ dst.size then .error (.resolutionMismatch src.size dst.size)
  else if !dst.format.isLuma then .error (.unsupportedLumaFormat dst.format)
  else
    match src.format.rgbOffsets? with
    | none => .error (.unsupportedFormatPair src.format dst.format)
    | some (r, g, b) =>
      .ok (convertPlane src dst 1 fun _ px =>
        [lumaByte color (px.getD r 0) (px.getD g 0) (px.getD b 0)])

end BlitDevice
