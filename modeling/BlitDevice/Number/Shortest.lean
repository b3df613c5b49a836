import BlitDevice.Number.Binary32

/-!
# Shortest decimal text

* `Decimal` — the value `0.d₁d₂… * 10 ^ point`.
* `Decimal.shortest` — the fewest digits that read back as the same word, nearest to the value.
* `Binary32.text` — positional from `0.0001` up to below `10 ^ 16`, else with an exponent; a
  positional text has at least one digit after its point.
-/

set_option autoImplicit false

namespace BlitDevice

/-- The number `digits / 10 ^ places * 10 ^ point`, where `places` is the length of `digits`. -/
structure Decimal where
  digits : Nat
  places : Nat
  point : Int
  deriving DecidableEq, Repr

namespace Decimal

/-- A power of ten as numerator and denominator. -/
def powerOfTen (e : Int) : Nat × Nat :=
  if 0 ≤ e then (Nat.pow 10 e.toNat, 1) else (1, Nat.pow 10 (-e).toNat)

/-- The least `e` with `num / den < 10 ^ e`, among the exponents a single-precision value has. -/
def magnitude (num den : Nat) : Int :=
  match (List.range 100).find? fun i =>
      let (n, d) := powerOfTen (Int.ofNat i - 50)
      num * d < n * den with
  | some i => Int.ofNat i - 50
  | none => 50

/-- Drops zeros at the end. -/
def trim : Nat → Nat → Int → Decimal
  | digits, 0, point => ⟨digits, 0, point⟩
  | digits, places + 1, point =>
    if digits % 10 = 0 then trim (digits / 10) places point else ⟨digits, places + 1, point⟩

/-- The point of the decimal grid with `places` digits that reads back as the value, if there is
one; of two the nearer, and the greater when both are as near. The value is `mid / den`, the reals
that read back as it lie between `low / den` and `high / den`, and `closed` says whether those two
do so themselves. -/
def onGrid? (low mid high den : Nat) (closed : Bool) (point : Int) (places : Nat) :
    Option Decimal :=
  let (n, d) := powerOfTen (point - places)
  let below := mid * d / (n * den)
  let within (c : Nat) : Bool :=
    let x := c * n * den
    if closed then low * d ≤ x && x ≤ high * d else low * d < x && x < high * d
  let gapBelow := mid * d - below * n * den
  let gapAbove := (below + 1) * n * den - mid * d
  let pick :=
    match within below, within (below + 1) with
    | true, true => some (if gapBelow < gapAbove then below else below + 1)
    | true, false => some below
    | false, true => some (below + 1)
    | false, false => none
  pick.map fun c =>
    if c = Nat.pow 10 places then trim (c / 10) places (point + 1) else trim c places point

/-- The fewest digits that read back as `mantissa * 2 ^ exponent`; of two such, the nearer. -/
def shortest (mantissa : Nat) (exponent : Int) : Decimal :=
  let scale := exponent - 2
  let (up, den) := if 0 ≤ scale then (1 <<< scale.toNat, 1) else (1, 1 <<< (-scale).toNat)
  let mid := 4 * mantissa * up
  let high := (4 * mantissa + 2) * up
  -- below a power of two the neighbours are half as far apart
  let narrow := mantissa = 0x800000 ∧ -149 < exponent
  let low := (4 * mantissa - if narrow then 1 else 2) * up
  let point := magnitude mid den
  let closed := mantissa % 2 == 0
  ((List.range' 1 9).findSome? (onGrid? low mid high den closed point)).getD ⟨0, 0, point⟩

/-- The digits in decimal notation, without point. -/
def text (d : Decimal) : String :=
  let s := toString d.digits
  "".pushn '0' (d.places - s.length) ++ s

/-- A point inside or beside the digits; one digit at least on either side. -/
def positional (d : Decimal) : String :=
  let s := d.text
  if d.point ≤ 0 then "0." ++ "".pushn '0' (-d.point).toNat ++ s
  else
    let whole := d.point.toNat
    if d.places ≤ whole then s ++ "".pushn '0' (whole - d.places) ++ ".0"
    else String.ofList (s.toList.take whole) ++ "." ++ String.ofList (s.toList.drop whole)

/-- One digit before the point, and the power of ten. -/
def scientific (d : Decimal) : String :=
  let s := d.text.toList
  let tail := if s.length ≤ 1 then "" else "." ++ String.ofList (s.drop 1)
  String.ofList (s.take 1) ++ tail ++ "e" ++ toString (d.point - 1)

end Decimal

/-- The shortest text of a value. -/
def Binary32.text : Binary32 → String
  | nan => "NaN"
  | infinite negative => if negative then "-inf" else "inf"
  | finite negative m e =>
    let magnitude :=
      if m = 0 then "0.0"
      else
        let d := Decimal.shortest m e
        if -3 ≤ d.point ∧ d.point ≤ 16 then d.positional else d.scientific
    if negative then "-" ++ magnitude else magnitude

/-- The shortest text of a single-precision number. -/
def floatText (v : Float32) : String := (Binary32.ofFloat v).text

end BlitDevice
