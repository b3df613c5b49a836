/-!
# Single-precision words, exactly

* `Binary32` — what a 32-bit word stands for: a sign, a whole mantissa and a power of two.
* `Binary32.nearest?` — the nearest whole number, halves away from zero.
* `Binary32.widen` — the same value in double precision; nothing is lost, so nothing is rounded.
-/

set_option autoImplicit false

namespace BlitDevice

/-- The value of a single-precision word; a finite one is `± mantissa * 2 ^ exponent`. -/
inductive Binary32 where
  | nan
  | infinite (negative : Bool)
  | finite (negative : Bool) (mantissa : Nat) (exponent : Int)
  deriving DecidableEq, Repr

namespace Binary32

/-- Reads sign, exponent and fraction fields. -/
def ofBits (w : UInt32) : Binary32 :=
  let negative := w.toNat >>> 31 == 1
  let field : Nat := w.toNat >>> 23 % 0x100
  let fraction : Nat := w.toNat % 0x800000
  if field = 255 then
    if fraction = 0 then infinite negative else nan
  else if field = 0 then finite negative fraction (-149)
  else finite negative (0x800000 + fraction) (Int.ofNat field - 150)

def ofFloat (v : Float32) : Binary32 := ofBits v.toBits

/-- `mantissa * 2 ^ exponent` to the nearest whole number, a half going up. -/
def roundHalfUp (mantissa : Nat) (exponent : Int) : Nat :=
  if 0 ≤ exponent then mantissa <<< exponent.toNat
  else
    let unit := 1 <<< (-exponent).toNat
    (2 * mantissa + unit) / (2 * unit)

/-- The nearest whole number, halves away from zero, for finite values. -/
def nearest? : Binary32 → Option Int
  | finite negative m e => some (if negative then -(roundHalfUp m e : Int) else roundHalfUp m e)
  | _ => none

/-- The least and the greatest 64-bit whole number. -/
def leastWord : Int := -0x8000000000000000

def greatestWord : Int := 0x7fffffffffffffff

/-- Moves a whole number into the 64-bit range. -/
def saturate (n : Int) : Int := max leastWord (min n greatestWord)

/-- The nearest 64-bit whole number: values out of range stop at its ends, no number is zero. -/
def toWord : Binary32 → Int
  | nan => 0
  | infinite negative => if negative then leastWord else greatestWord
  | v => saturate (v.nearest?.getD 0)

theorem saturate_bounds (n : Int) : leastWord ≤ saturate n ∧ saturate n ≤ greatestWord := by
  simp only [saturate, leastWord, greatestWord]; omega

theorem toWord_bounds (v : Binary32) : leastWord ≤ v.toWord ∧ v.toWord ≤ greatestWord := by
  cases v with
  | nan => decide
  | infinite negative => cases negative <;> decide
  | finite negative m e => exact saturate_bounds _

/-- Double-precision bits of `± mantissa * 2 ^ exponent`, for a mantissa below `2 ^ 53` and an
exponent well inside the double range. -/
def doubleBits (negative : Bool) (mantissa : Nat) (exponent : Int) : UInt64 :=
  let sign := if negative then 0x8000000000000000 else 0
  if mantissa = 0 then UInt64.ofNat sign
  else
    let top := mantissa.log2
    let field := (exponent + top + 1023).toNat
    UInt64.ofNat (sign + field <<< 52 + (mantissa <<< (52 - top) - 1 <<< 52))

/-- The value in double precision. -/
def widen : Binary32 → Float
  | nan => Float.ofBits 0x7ff8000000000000
  | infinite negative => Float.ofBits (if negative then 0xfff0000000000000 else 0x7ff0000000000000)
  | finite negative m e => Float.ofBits (doubleBits negative m e)

end Binary32

end BlitDevice
