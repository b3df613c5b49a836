import BlitDevice.Error

/-!
# What a texture is created from

* `TextureConfig` — size, format, number of levels, usage and name.
* `byteCount` — the bytes such a texture takes, if its format stores pixels one by one and 64 bits
  can address them: `byteCount_eq_ok_iff`.
-/

set_option autoImplicit false

namespace BlitDevice

/-- What a texture is for; recorded only. -/
inductive Usage where
  | static | dynamic | renderTarget
  deriving DecidableEq, Repr

namespace Usage

def all : List Usage := [static, dynamic, renderTarget]

def name : Usage → String
  | static => "Static"
  | dynamic => "Dynamic"
  | renderTarget => "RenderTarget"

end Usage

structure TextureConfig where
  size : Size
  format : PixelFormat
  levels : UInt32 := 1
  usage : Usage := .static
  name : String := ""
  deriving DecidableEq, Repr

/-- A texture has one level at least. -/
def atLeastOne (levels : UInt32) : UInt32 := if levels = 0 then 1 else levels

theorem atLeastOne_pos (levels : UInt32) : 0 < (atLeastOne levels).toNat := by
  unfold atLeastOne
  split
  · decide
  · rename_i h
    have : levels.toNat ≠ 0 := fun h0 => h (UInt32.toNat_inj.mp h0)
    omega

theorem toNat_atLeastOne (levels : UInt32) : (atLeastOne levels).toNat = max levels.toNat 1 := by
  unfold atLeastOne
  split
  · rename_i h; subst h; rfl
  · rename_i h
    have : levels.toNat ≠ 0 := fun h0 => h (UInt32.toNat_inj.mp h0)
    omega

/-- A product that 64 bits can hold. -/
def product? (a b : Nat) : Option Nat := if a * b < 0x10000000000000000 then some (a * b) else none

/-- Bytes of all levels together. Each level takes as much as the first. -/
def byteCount (format : PixelFormat) (size : Size) (levels : UInt32) : Except Error Nat :=
  match format.bytesPerPixel? with
  | none => .error (.unsupportedFormat format)
  | some perPixel =>
    let levels := atLeastOne levels
    let count := do
      let row ← product? perPixel size.cols
      let level ← product? row size.rows
      product? level levels.toNat
    match count with
    | some n => .ok n
    | none => .error (.textureTooLarge size levels)

theorem product?_eq_some_iff {a b n : Nat} :
    product? a b = some n ↔ a * b = n ∧ n < 0x10000000000000000 := by
  unfold product?
  split
  · rename_i h
    constructor
    · intro e; cases e; exact ⟨rfl, h⟩
    · rintro ⟨rfl, _⟩; rfl
  · rename_i h
    constructor
    · intro e; cases e
    · rintro ⟨rfl, h'⟩; exact absurd h' h

/-- **A count is the whole product, and it fits 64 bits.** -/
theorem byteCount_eq_ok {format : PixelFormat} {size : Size} {levels : UInt32} {n : Nat}
    (h : byteCount format size levels = .ok n) :
    format.isCompressed = false ∧
      n = format.bytesPerPixel * size.cols * size.rows * (atLeastOne levels).toNat ∧
      n < 0x10000000000000000 := by
  unfold byteCount at h
  split at h
  · cases h
  · rename_i perPixel hp
    have hc : format.isCompressed = false := by
      cases hf : format.isCompressed with
      | false => rfl
      | true => rw [PixelFormat.bytesPerPixel?_eq_none_iff.mpr hf] at hp; cases hp
    rw [PixelFormat.bytesPerPixel?_eq_some hp]
    dsimp only at h
    split at h
    · rename_i m hm
      cases h
      simp only [bind, Option.bind_eq_some_iff, product?_eq_some_iff] at hm
      obtain ⟨row, ⟨rfl, _⟩, level, ⟨rfl, _⟩, rfl, hlt⟩ := hm
      exact ⟨hc, rfl, hlt⟩
    · cases h

end BlitDevice
