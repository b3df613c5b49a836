import BlitDevice.Size
import BlitDevice.Text.Layout

/-!
# Rectangles in pixels

* `Rect` — an origin and an extent, each any whole number.
* `Rect.covering` — all of a texture.
* `Rect.IsEmpty` — nothing to write; a negative extent counts.
-/

set_option autoImplicit false

namespace BlitDevice

/-- Origin and extent. The origin may lie outside the texture the rectangle is meant for, and the
extent may run past it. -/
structure Rect where
  x : Int
  y : Int
  width : Int
  height : Int
  deriving DecidableEq, Repr

namespace Rect

/-- All of a texture. -/
def covering (s : Size) : Rect := ⟨0, 0, s.cols, s.rows⟩

/-- Nothing to write. -/
def IsEmpty (r : Rect) : Prop := r.width ≤ 0 ∨ r.height ≤ 0

instance (r : Rect) : Decidable r.IsEmpty := inferInstanceAs (Decidable (_ ∨ _))

/-- Every field is a 64-bit whole number. -/
def InRange (r : Rect) : Prop :=
  ∀ v ∈ [r.x, r.y, r.width, r.height], -0x8000000000000000 ≤ v ∧ v < 0x8000000000000000

def text (r : Rect) : String :=
  braced "BlitRect" [("x", toString r.x), ("y", toString r.y), ("width", toString r.width),
    ("height", toString r.height)]

end Rect

end BlitDevice
