import BlitDevice.Matrix

/-!
# From vertices to pixels

* `ortho`, `frustum` — projections of a box and of a frustum, y growing downward on the screen.
* `project` — a vertex through a transform and a viewport, if it lands at a finite place.
* `Transforms` — projection, saved projections, model-view and viewport.
-/

set_option autoImplicit false

namespace BlitDevice

variable {K : Type} [Scalar K]

/-- Orthographic projection of the box `left … right`, `top … bottom`, `near … far`. -/
def ortho (left right top bottom near far : K) : Mat4 K :=
  let zero : K := Scalar.ofInt 0
  let two : K := Scalar.ofInt 2
  let width := right - left
  let height := bottom - top
  let depth := far - near
  { xAxis := ⟨two / width, zero, zero, zero⟩
    yAxis := ⟨zero, two / -height, zero, zero⟩
    zAxis := ⟨zero, zero, Scalar.ofInt (-2) / depth, zero⟩
    wAxis := ⟨(left + right) / -width, (bottom + top) / height, (far + near) / -depth,
      Scalar.ofInt 1⟩ }

/-- Perspective projection of the frustum with the given edges on its near plane. -/
def frustum (left right top bottom near far : K) : Mat4 K :=
  let zero : K := Scalar.ofInt 0
  let two : K := Scalar.ofInt 2
  let width := right - left
  let height := top - bottom
  let depth := far - near
  { xAxis := ⟨two * near / width, zero, zero, zero⟩
    yAxis := ⟨zero, two * near / height, zero, zero⟩
    zAxis := ⟨(left + right) / width, (top + bottom) / height, -(far + near) / depth,
      Scalar.ofInt (-1)⟩
    wAxis := ⟨zero, zero, -(two * far * near) / depth, zero⟩ }

/-- The rectangle of the render target that the projected square covers. -/
structure Viewport where
  x : Int := 0
  y : Int := 0
  width : Int := 0
  height : Int := 0
  deriving DecidableEq, Repr

/-- A place on the render target, in pixels from its top left. -/
structure ScreenPoint (K : Type) where
  x : K
  y : K
  deriving DecidableEq

/-- Divides by the fourth coordinate, turns y downward, and scales to the viewport. -/
def project (transform : Mat4 K) (viewport : Viewport) (vertex : Vec3 K) : Option (ScreenPoint K) :=
  let one : K := Scalar.ofInt 1
  let two : K := Scalar.ofInt 2
  let clip := transform.apply (vertex.extend one)
  if !clip.isFinite || Scalar.isZero clip.w then none
  else
    let point : ScreenPoint K :=
      { x := (clip.x / clip.w + one) / two * Scalar.ofInt viewport.width + Scalar.ofInt viewport.x
        y := (one - (clip.y / clip.w + one) / two) * Scalar.ofInt viewport.height +
          Scalar.ofInt viewport.y }
    if Scalar.isFinite point.x && Scalar.isFinite point.y then some point else none

/-- The transforms a draw goes through; the last projection saved stands first in `saved`. -/
structure Transforms (K : Type) where
  projection : Mat4 K
  saved : List (Mat4 K)
  modelView : Mat4 K
  viewport : Viewport
  deriving DecidableEq

namespace Transforms

def initial : Transforms K := ⟨Mat4.identity, [], Mat4.identity, {}⟩

/-- Model-view first, then projection. -/
def combined (t : Transforms K) : Mat4 K := t.projection.mul t.modelView

end Transforms

end BlitDevice
