/-!
# Words of four bytes

* `wordBytes` — a word as four bytes, the highest first.
* `wordOf` — the word four bytes stand for: `wordOf_wordBytes`.
-/

set_option autoImplicit false

namespace BlitDevice

/-- Four bytes, the highest first. -/
def wordBytes (w : UInt32) : List UInt8 :=
  [UInt8.ofNat (w.toNat >>> 24), UInt8.ofNat (w.toNat >>> 16), UInt8.ofNat (w.toNat >>> 8),
    UInt8.ofNat w.toNat]

/-- The number four bytes stand for. -/
def wordNat (a b c d : UInt8) : Nat :=
  a.toNat <<< 24 + b.toNat <<< 16 + c.toNat <<< 8 + d.toNat

/-- The word four bytes stand for. -/
def wordOf (a b c d : UInt8) : UInt32 := UInt32.ofNat (wordNat a b c d)

theorem wordNat_lt (a b c d : UInt8) : wordNat a b c d < 0x100000000 := by
  have := a.toNat_lt; have := b.toNat_lt; have := c.toNat_lt; have := d.toNat_lt
  simp only [wordNat]; omega

theorem toNat_wordOf (a b c d : UInt8) : (wordOf a b c d).toNat = wordNat a b c d := by
  rw [wordOf, UInt32.toNat_ofNat_of_lt' (wordNat_lt a b c d)]

@[simp] theorem length_wordBytes (w : UInt32) : (wordBytes w).length = 4 := rfl

/-- **A word reads back from its bytes.** -/
theorem wordOf_wordBytes (w : UInt32) {a b c d : UInt8} (h : wordBytes w = [a, b, c, d]) :
    wordOf a b c d = w := by
  simp only [wordBytes, List.cons.injEq, and_true] at h
  obtain ⟨rfl, rfl, rfl, rfl⟩ := h
  apply UInt32.toNat_inj.mp
  rw [toNat_wordOf]
  have := w.toNat_lt
  simp only [wordNat, UInt8.toNat_ofNat']
  omega

end BlitDevice
