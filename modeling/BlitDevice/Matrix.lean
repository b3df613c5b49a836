import BlitDevice.Number.Scalar

/-!
# Vectors and matrices

* `Vec3`, `Vec4` — points and homogeneous points.
* `Mat4` — four columns; a point is transformed as `m.apply v`, and `a.mul b` applies `b` first.
-/

set_option autoImplicit false

namespace BlitDevice

structure Vec3 (K : Type) where
  x : K
  y : K
  z : K
  deriving DecidableEq

structure Vec4 (K : Type) where
  x : K
  y : K
  z : K
  w : K
  deriving DecidableEq

/-- Four columns. -/
structure Mat4 (K : Type) where
  xAxis : Vec4 K
  yAxis : Vec4 K
  zAxis : Vec4 K
  wAxis : Vec4 K
  deriving DecidableEq

variable {K : Type} [Scalar K]

/-- A point with a fourth coordinate. -/
def Vec3.extend (v : Vec3 K) (w : K) : Vec4 K := ⟨v.x, v.y, v.z, w⟩

namespace Vec4

def zero : Vec4 K := ⟨Scalar.ofInt 0, Scalar.ofInt 0, Scalar.ofInt 0, Scalar.ofInt 0⟩

def scale (v : Vec4 K) (k : K) : Vec4 K := ⟨v.x * k, v.y * k, v.z * k, v.w * k⟩

def add (a b : Vec4 K) : Vec4 K := ⟨a.x + b.x, a.y + b.y, a.z + b.z, a.w + b.w⟩

def isFinite (v : Vec4 K) : Bool :=
  Scalar.isFinite v.x && Scalar.isFinite v.y && Scalar.isFinite v.z && Scalar.isFinite v.w

end Vec4

namespace Mat4

def identity : Mat4 K where
  xAxis := ⟨Scalar.ofInt 1, Scalar.ofInt 0, Scalar.ofInt 0, Scalar.ofInt 0⟩
  yAxis := ⟨Scalar.ofInt 0, Scalar.ofInt 1, Scalar.ofInt 0, Scalar.ofInt 0⟩
  zAxis := ⟨Scalar.ofInt 0, Scalar.ofInt 0, Scalar.ofInt 1, Scalar.ofInt 0⟩
  wAxis := ⟨Scalar.ofInt 0, Scalar.ofInt 0, Scalar.ofInt 0, Scalar.ofInt 1⟩

/-- The columns weighted by the coordinates, added from the first to the last. -/
def apply (m : Mat4 K) (v : Vec4 K) : Vec4 K :=
  (((m.xAxis.scale v.x).add (m.yAxis.scale v.y)).add (m.zAxis.scale v.z)).add (m.wAxis.scale v.w)

def mul (a b : Mat4 K) : Mat4 K :=
  ⟨a.apply b.xAxis, a.apply b.yAxis, a.apply b.zAxis, a.apply b.wAxis⟩

end Mat4

end BlitDevice
