import BlitDevice.Number.Word
import BlitDevice.Png.Error
import BlitDevice.Size

/-!
# Headers

* `BitDepth` — how many bits a sample has.
* `ColorType` — which channels a pixel has, and the bit depths they can have.
* `Header` — size, depth, colour type, and whether rows are interlaced.
* `Header.ofBytes`, `Header.toBytes` — the thirteen bytes of a header.
-/

set_option autoImplicit false

namespace BlitDevice.Png

/-- How many bits a sample has. -/
inductive BitDepth where
  | one | two | four | eight | sixteen
  deriving DecidableEq, Repr

namespace BitDepth

def all : List BitDepth := [one, two, four, eight, sixteen]

def bits : BitDepth → Nat
  | one => 1
  | two => 2
  | four => 4
  | eight => 8
  | sixteen => 16

/-- In a computation a depth is its number of bits. -/
instance : Coe BitDepth Nat := ⟨bits⟩

def ofBits? (bits : Nat) : Option BitDepth := all.find? fun d => d.bits == bits

/-- How messages name it. -/
def name : BitDepth → String
  | one => "One"
  | two => "Two"
  | four => "Four"
  | eight => "Eight"
  | sixteen => "Sixteen"

theorem ofBits?_bits (d : BitDepth) : ofBits? d.bits = some d := by cases d <;> rfl

theorem bits_le (d : BitDepth) : d.bits ≤ 16 := by cases d <;> decide

end BitDepth

/-- The channels of a pixel. -/
inductive ColorType where
  | gray | rgb | indexed | grayAlpha | rgba
  deriving DecidableEq, Repr

namespace ColorType

def all : List ColorType := [gray, rgb, indexed, grayAlpha, rgba]

def code : ColorType → UInt8
  | gray => 0
  | rgb => 2
  | indexed => 3
  | grayAlpha => 4
  | rgba => 6

def ofCode? (code : UInt8) : Option ColorType := all.find? fun c => c.code == code

/-- The number of samples of a pixel. -/
def channels : ColorType → Nat
  | gray | indexed => 1
  | grayAlpha => 2
  | rgb => 3
  | rgba => 4

/-- The depths a sample can have. -/
def depths : ColorType → List BitDepth
  | gray => BitDepth.all
  | indexed => [.one, .two, .four, .eight]
  | rgb | grayAlpha | rgba => [.eight, .sixteen]

theorem ofCode?_code (c : ColorType) : ofCode? c.code = some c := by cases c <;> rfl

theorem channels_pos (c : ColorType) : 0 < c.channels := by cases c <;> decide

end ColorType

/-- What a stream says about its image first. -/
structure Header where
  size : Size
  depth : BitDepth
  color : ColorType
  interlaced : Bool
  deriving DecidableEq, Repr

namespace Header

/-- No side is longer. -/
def longestSide : Nat := 0x7fffffff

/-- Both sides are positive and not too long, and the depth is one the colour type has. -/
def IsValid (h : Header) : Prop :=
  (0 < h.size.cols ∧ h.size.cols ≤ longestSide) ∧ (0 < h.size.rows ∧ h.size.rows ≤ longestSide) ∧
    h.depth ∈ h.color.depths

instance (h : Header) : Decidable h.IsValid := inferInstanceAs (Decidable (_ ∧ _ ∧ _))

/-- The methods of compression and of filtering have to be zero, interlacing is zero or one. -/
def ofBytes : List UInt8 → Except DecodeError Header
  | [w0, w1, w2, w3, h0, h1, h2, h3, depth, color, 0, 0, interlacing] =>
    match BitDepth.ofBits? depth.toNat, ColorType.ofCode? color with
    | some depth, some color =>
      let header : Header :=
        { size := ⟨wordOf w0 w1 w2 w3, wordOf h0 h1 h2 h3⟩
          depth := depth
          color := color
          interlaced := interlacing == 1 }
      if interlacing ≤ 1 ∧ header.IsValid then .ok header else .error .badHeader
    | _, _ => .error .badHeader
  | _ => .error .badHeader

def toBytes (h : Header) : List UInt8 :=
  wordBytes h.size.width ++ wordBytes h.size.height ++
    [UInt8.ofNat h.depth, h.color.code, 0, 0, if h.interlaced then 1 else 0]

/-- Bits of a pixel. -/
def bitsPerPixel (h : Header) : Nat := h.color.channels * h.depth

/-- Bytes of a row of so many pixels; its last byte may be filled in part. -/
def rowBytes (h : Header) (cols : Nat) : Nat := (cols * h.bitsPerPixel + 7) / 8

/-- **A valid header reads back from its bytes.** -/
theorem ofBytes_toBytes {h : Header} (valid : h.IsValid) : ofBytes h.toBytes = .ok h := by
  obtain ⟨⟨width, height⟩, depth, color, interlaced⟩ := h
  have hdepth : (UInt8.ofNat depth.bits).toNat = depth.bits := by
    have := depth.bits_le
    rw [UInt8.toNat_ofNat']; omega
  simp only [toBytes, wordBytes, List.cons_append, List.nil_append, ofBytes,
    ColorType.ofCode?_code, wordOf_wordBytes _ rfl, hdepth, BitDepth.ofBits?_bits]
  cases interlaced
  · simp [valid]
  · simp [valid]

end Header

end BlitDevice.Png
