import BlitDevice.Proofs.Fault
import BlitDevice.Proofs.Pixels

/-!
# Textures while they are written to

* `Canvas` — a texture while it is written to, what was told meanwhile, and where.
* `lineLength`, `level0Length`, `pixelRange`, `sliceOf` — addresses and slices, on words; none
  faults for a pixel that the texture has: `layoutOf_eq`, `pixelRange_eq`, `sliceOf_eq`.
* `Canvas.writePixel`, `Canvas.copyLevel0` — what every engine writes with: one pixel, or level 0 as
  a whole.
* `Canvas.foldl_paintTexel` — pixels written one by one are pixels painted one by one.
-/

set_option autoImplicit false

namespace BlitDevice

/-- A texture while it is written to, with what was told meanwhile, and where the pixels written on
their own start, first to last. -/
structure Canvas where
  texture : Texture
  log : Log := []
  writes : List Nat := []

namespace Canvas

instance : Telling Canvas where
  add r c := { c with log := c.log ++ [r] }

/-- Writes bytes over those from `start` on. -/
def put (c : Canvas) (start : Nat) (px : List UInt8) : Canvas :=
  { c with
    texture := c.texture.withBytes (c.texture.bytes.overwrite start px) (Bytes.size_overwrite _ _ _)
    writes := c.writes ++ [start] }

/-- Writes one pixel as a rule says. -/
def paintTexel (f : Texel → List UInt8 → List UInt8) (c : Canvas) (p : Texel) : Canvas :=
  c.put (c.texture.offset p) ((f p (c.texture.pixel p)).take c.texture.bytesPerPixel)

/-- Replaces level 0, by as many bytes as it has. -/
def putLevel0 (plane : Bytes) : InPlace Canvas Unit := ⟨fun c =>
  if h : plane.size = c.texture.level0Size then
    .ok (.ok (), { c with texture := c.texture.withLevel0 plane h })
  else .error .outOfBounds⟩

end Canvas

/-! ## Addresses on words -/

/-- Bytes of one row. -/
def lineLength (t : Texture) : Checked Int := Word.u64.hold (t.bytesPerPixel * t.size.cols)

/-- Bytes of level 0, which the buffer has to have. -/
def level0Length (t : Texture) : Checked Int := do
  let n ← Word.u64.hold ((← lineLength t) * t.size.rows)
  if n ≤ t.bytes.size then .ok n else .error .outOfBounds

/-- What addresses are computed from: bytes of a row, of a pixel and of level 0. -/
structure Layout where
  line : Int
  perPixel : Int
  level : Int
  deriving DecidableEq

def layoutOf (t : Texture) : Checked Layout := do
  return ⟨← lineLength t, t.bytesPerPixel, ← level0Length t⟩

/-- Where a pixel starts and where it ends. -/
def pixelRange (l : Layout) (x y : Int) : Checked (Int × Int) := do
  let above ← Word.u64.hold (y * l.line)
  let before ← Word.u64.hold (x * l.perPixel)
  let start ← Word.u64.hold (above + before)
  return (start, ← Word.u64.hold (start + l.perPixel))

/-- The bytes of a range of level 0. -/
def sliceOf (t : Texture) (l : Layout) (range : Int × Int) : Checked (List UInt8) :=
  if 0 ≤ range.1 ∧ range.1 ≤ range.2 ∧ range.2 ≤ l.level then
    .ok (t.bytes.slice range.1.toNat (range.2 - range.1).toNat)
  else .error .outOfBounds

section Texture

variable (t : Texture)

/-- Whatever lies inside the buffer is a 64-bit number. -/
theorem hold_of_le_size {n : Nat} (h : n ≤ t.bytes.size) : Word.u64.hold n = .ok (n : Int) := by
  have := t.addressable
  exact Word.hold_natCast (by omega)

theorem lineLength_eq : lineLength t = .ok (t.lineSize : Int) := by
  have hle : t.lineSize ≤ 16 * 2 ^ 32 :=
    Nat.mul_le_mul (PixelFormat.bytesPerPixel_bounds t.plain).2 t.size.cols_lt.le
  rw [lineLength, ← Int.natCast_mul]
  exact Word.hold_natCast (by rw [Texture.lineSize] at hle; omega)

theorem level0Length_eq : level0Length t = .ok (t.level0Size : Int) := by
  have hle := t.level0Size_le
  have hn : Word.u64.hold ((t.lineSize : Int) * t.size.rows) = .ok (t.level0Size : Int) := by
    rw [← Int.natCast_mul]
    exact hold_of_le_size t hle
  simp only [level0Length, lineLength_eq, hn, ok_bind]
  rw [if_pos (by omega)]

/-- The layout a texture has. -/
def Layout.of (t : Texture) : Layout := ⟨t.lineSize, t.bytesPerPixel, t.level0Size⟩

theorem layoutOf_eq : layoutOf t = .ok (Layout.of t) := by
  simp only [layoutOf, lineLength_eq, level0Length_eq, ok_bind, Checked.pure_eq, Layout.of]

variable {t} {p : Texel}

theorem pixelRange_eq (hp : t.contains p = true) :
    pixelRange (Layout.of t) p.x p.y =
      .ok ((t.offset p : Int), (t.offset p : Int) + t.bytesPerPixel) := by
  have hle := Texture.offset_add_le hp
  have hsz := t.level0Size_le
  have hoff : t.offset p = p.y * t.lineSize + p.x * t.bytesPerPixel := by
    rw [Texture.offset, Texture.lineSize]; ring
  have habove : Word.u64.hold ((p.y : Int) * t.lineSize) =
      .ok ((p.y * t.lineSize : Nat) : Int) := by
    rw [← Int.natCast_mul]; exact hold_of_le_size t (by omega)
  have hbefore : Word.u64.hold ((p.x : Int) * t.bytesPerPixel) =
      .ok ((p.x * t.bytesPerPixel : Nat) : Int) := by
    rw [← Int.natCast_mul]; exact hold_of_le_size t (by omega)
  have hstart : Word.u64.hold (((p.y * t.lineSize : Nat) : Int) + (p.x * t.bytesPerPixel : Nat)) =
      .ok (t.offset p : Int) := by
    rw [← Int.natCast_add, ← hoff]; exact hold_of_le_size t (by omega)
  have hstop : Word.u64.hold ((t.offset p : Int) + t.bytesPerPixel) =
      .ok ((t.offset p : Int) + t.bytesPerPixel) := by
    rw [← Int.natCast_add]; exact hold_of_le_size t (by omega)
  simp only [pixelRange, Layout.of, habove, hbefore, hstart, hstop, ok_bind, Checked.pure_eq]

theorem sliceOf_eq (hp : t.contains p = true) :
    sliceOf t (Layout.of t) ((t.offset p : Int), (t.offset p : Int) + t.bytesPerPixel) =
      .ok (t.pixel p) := by
  have hle := Texture.offset_add_le hp
  rw [sliceOf, if_pos ⟨by omega, by dsimp only; omega, by simp only [Layout.of]; omega⟩,
    Texture.pixel]
  congr 2
  omega

end Texture

namespace Canvas

open InPlace

/-! ## Writing -/

/-- Writes the pixel at `(dx, dy)` with what an operation makes of it and of the pixel at
`(sx, sy)` of the source. -/
def writePixel (op : List UInt8 → List UInt8 → Checked (List UInt8)) (src : Texture)
    (srcLayout dstLayout : Layout) (sx sy dx dy : Int) : InPlace Canvas Unit := do
  let into ← checked (pixelRange dstLayout dx dy)
  let source ← checked (pixelRange srcLayout sx sy)
  let old ← checked (sliceOf (← state).texture dstLayout into)
  let new ← checked (sliceOf src srcLayout source)
  let px ← checked (op old new)
  change fun c => c.put into.1.toNat px

/-- Writes level 0 from level 0 of another texture, which has to be as long. -/
def copyLevel0 (src : Texture) : InPlace Canvas Unit := do
  let _ ← checked (level0Length (← state).texture)
  let _ ← checked (level0Length src)
  putLevel0 src.level0

/-- Textures of one configuration have one layout. -/
theorem layout_eq {t u : Texture} (h : t.config = u.config) : Layout.of t = Layout.of u := by
  simp only [Layout.of, Texture.level0Size, Texture.lineSize, Texture.bytesPerPixel_of_config h,
    Texture.size_of_config h]

theorem run_writePixel {op : List UInt8 → List UInt8 → Checked (List UInt8)} {src dst : Texture}
    {c : Canvas} (hc : c.texture.config = dst.config) {q p : Texel} (hq : src.contains q = true)
    (hp : dst.contains p = true) {px : List UInt8}
    (hop : op (c.texture.pixel p) (src.pixel q) = .ok px) :
    (writePixel op src (Layout.of src) (Layout.of dst) q.x q.y p.x p.y).run c =
      .ok (.ok (), c.put (c.texture.offset p) px) := by
  have hp' : c.texture.contains p = true := (Texture.contains_of_config hc p).trans hp
  rw [← layout_eq hc]
  simp only [writePixel, run_bind, run_checked (pixelRange_eq hp'), run_checked (pixelRange_eq hq),
    run_state, run_checked (sliceOf_eq hp'), run_checked (sliceOf_eq hq), run_checked hop,
    run_change, andThen_ok, Int.toNat_natCast]

/-- Pixels painted one by one on a canvas are pixels painted one by one in its buffer. -/
theorem foldl_paintTexel (f : Texel → List UInt8 → List UInt8) (ps : List Texel) (c : Canvas) :
    ps.foldl (paintTexel f) c =
      { texture := c.texture.withBytes (ps.foldl (c.texture.paintTexel f) c.texture.bytes)
          (Texture.size_foldl_paintTexel _ _ _ _)
        log := c.log
        writes := c.writes ++ ps.map c.texture.offset } := by
  induction ps generalizing c with
  | nil => simp only [List.foldl_nil, List.map_nil, List.append_nil]; rfl
  | cons p ps ih =>
    rw [List.foldl_cons, ih]
    simp only [List.map_cons, List.foldl_cons]
    congr 1
    exact List.append_assoc c.writes _ _

theorem run_copyLevel0 {src : Texture} {c : Canvas} (h : src.level0.size = c.texture.level0Size) :
    (copyLevel0 src).run c =
      .ok (.ok (), { c with texture := c.texture.withLevel0 src.level0 h }) := by
  simp only [copyLevel0, run_bind, run_state, andThen_ok, run_checked (level0Length_eq _),
    putLevel0]
  rw [dif_pos h]

/-- How a canvas ends up: with the texture that was come to, or as it was. -/
def endUp (c : Canvas) (writes : List Nat) :
    Except Error (Texture × Log) → Except Error Unit × Canvas
  | .ok (t, log) => (.ok (), ⟨t, c.log ++ log, c.writes ++ writes⟩)
  | .error e => (.error e, c)

end Canvas

end BlitDevice
