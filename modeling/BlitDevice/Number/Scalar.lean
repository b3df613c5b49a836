import BlitDevice.Number.Binary32

/-!
# The numbers geometry is computed with

* `Scalar` — arithmetic, whole numbers, tests for a finite and a zero value, and rounding.
* The single-precision instance is the one the device runs on.

Geometry is written against `Scalar`, so the same expressions can be read over any field.
-/

set_option autoImplicit false

namespace BlitDevice

/-- A number type that vertices and matrices can be made of. -/
class Scalar (K : Type) extends Add K, Sub K, Mul K, Div K, Neg K where
  /-- The nearest value to a whole number. -/
  ofInt : Int → K
  /-- Whether the value is a number and not infinite. -/
  isFinite : K → Bool
  /-- Whether the value equals zero, of either sign. -/
  isZero : K → Bool
  /-- The nearest 64-bit whole number, halves away from zero. -/
  toWord : K → Int

instance : Scalar Float32 where
  ofInt := Float32.ofInt
  isFinite := Float32.isFinite
  isZero v := v == 0.0
  toWord v := (Binary32.ofFloat v).toWord

end BlitDevice
