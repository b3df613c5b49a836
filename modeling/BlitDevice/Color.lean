import BlitDevice.Format
import BlitDevice.Number.Binary32

/-!
# Colours in bytes

* `Rgba8` — red, green, blue and alpha, a byte each.
* `Bgrx8` — blue, green, red and a byte without meaning; as a colour it is without transparency.
* `unorm` — a number from 0 to 1 as a byte, to the nearest.
* `Rgba8.encode?` — a colour as a pixel, in the formats a clear can fill.
-/

set_option autoImplicit false

namespace BlitDevice

/-- Red, green, blue and alpha. -/
structure Rgba8 where
  r : UInt8
  g : UInt8
  b : UInt8
  a : UInt8
  deriving DecidableEq, Repr

/-- Blue, green, red and padding. -/
structure Bgrx8 where
  b : UInt8
  g : UInt8
  r : UInt8
  x : UInt8
  deriving DecidableEq, Repr

def Rgba8.toList (c : Rgba8) : List UInt8 := [c.r, c.g, c.b, c.a]

/-- The first four bytes as a colour. -/
def Rgba8.ofList? : List UInt8 → Option Rgba8
  | r :: g :: b :: a :: _ => some ⟨r, g, b, a⟩
  | _ => none

/-- The first four bytes as a colour with padding. -/
def Bgrx8.ofList? : List UInt8 → Option Bgrx8
  | b :: g :: r :: x :: _ => some ⟨b, g, r, x⟩
  | _ => none

/-- The same colour, without transparency; the padding has no say in it. -/
def Bgrx8.toRgba8 (c : Bgrx8) : Rgba8 := ⟨c.r, c.g, c.b, 0xff⟩

/-- Moves a number into `0 … 1`; what is no number stays. -/
def clampUnit (v : Float32) : Float32 := if v < 0.0 then 0.0 else if 1.0 < v then 1.0 else v

/-- A number from 0 to 1 as a byte. -/
def unorm (v : Float32) : UInt8 := UInt8.ofNat (Binary32.ofFloat (clampUnit v * 255.0)).toWord.toNat

def Rgba8.ofFloats (r g b a : Float32) : Rgba8 := ⟨unorm r, unorm g, unorm b, unorm a⟩

/-- The colour as a pixel; the formats with fewer channels keep the ones they have. -/
def Rgba8.encode? (c : Rgba8) : PixelFormat → Option (List UInt8)
  | .rgba => some [c.r, c.g, c.b, c.a]
  | .bgra => some [c.b, c.g, c.r, c.a]
  | .bgrx => some [c.b, c.g, c.r, 0xff]
  | .r8 => some [c.r]
  | .a8 => some [c.a]
  | .r8g8 => some [c.r, c.g]
  | _ => none

end BlitDevice
