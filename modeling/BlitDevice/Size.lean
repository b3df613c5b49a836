/-!
# Sizes

* `Size` — width and height in pixels, each a 32-bit count.
* `Size.cols`, `Size.rows` — the same as natural numbers.
-/

set_option autoImplicit false

namespace BlitDevice

/-- Width and height in pixels. -/
structure Size where
  width : UInt32
  height : UInt32
  deriving DecidableEq, Repr

namespace Size

def cols (s : Size) : Nat := s.width.toNat

def rows (s : Size) : Nat := s.height.toNat

/-- Width, a cross, height. -/
def text (s : Size) : String := toString s.cols ++ "x" ++ toString s.rows

theorem cols_lt (s : Size) : s.cols < 0x100000000 := s.width.toNat_lt

theorem rows_lt (s : Size) : s.rows < 0x100000000 := s.height.toNat_lt

end Size

end BlitDevice
