import BlitDevice.Luma
import BlitDevice.Proofs.Canvas

/-!
# Fills and planes on machine words

* `Canvas.fill` — level 0 in chunks of one pixel; `Canvas.run_fill` says that it comes to
  `Texture.fill`.
* `Canvas.convertPlane` — a loop over all pixels of the canvas, each from a source pixel at a
  multiple of its coordinates; `Canvas.run_convertPlane` says that it ends wherever the source is
  large enough, and comes to `convertPlane`.
* `Canvas.luma` — what is checked, then the loop; `Canvas.run_luma` says that it comes to
  `convertToLuma`.
-/

set_option autoImplicit false

namespace BlitDevice.Canvas

open InPlace

/-- Where all pixels of a texture start, row by row. -/
def allOffsets (t : Texture) : List Nat := (Window.covering t.size).texels.map t.offset

/-! ## Fills -/

/-- Writes one value over each pixel of level 0, if it has the length of a pixel. -/
def fill (px : List UInt8) : InPlace Canvas Unit := do
  let t := (← state).texture
  if px.length ≠ t.bytesPerPixel ∨ px = [] then return ()
  else do
    let length ← checked (level0Length t)
    forM (List.range (length.toNat / px.length)) fun i => change fun c => c.put (i * px.length) px

/-- Where a fill writes. -/
def fillWrites (t : Texture) (px : List UInt8) : List Nat :=
  if px.length = t.bytesPerPixel then allOffsets t else []

/-- A value as long as a pixel, put where a pixel starts, is a pixel painted. -/
theorem put_eq_paintTexel {c c' : Canvas} {px : List UInt8}
    (h : c'.texture.config = c.texture.config) (hlen : px.length = c.texture.bytesPerPixel)
    (p : Texel) : c'.put (c.texture.offset p) px = c'.paintTexel (fun _ _ => px) p := by
  have hbpp := Texture.bytesPerPixel_of_config h
  rw [paintTexel, Texture.offset_of_config h, List.take_of_length_le (by omega)]

theorem run_fill (px : List UInt8) (c : Canvas) :
    (fill px).run c = .ok (c.endUp (fillWrites c.texture px) (.ok (c.texture.fill px, []))) := by
  have hpos := c.texture.bytesPerPixel_pos
  by_cases hlen : px.length = c.texture.bytesPerPixel
  · have hne : ¬ (px.length ≠ c.texture.bytesPerPixel ∨ px = []) := by
      rintro (h | rfl)
      · exact h hlen
      · rw [List.length_nil] at hlen; omega
    have hcount : (c.texture.level0Size : Int).toNat / px.length =
        c.texture.size.cols * c.texture.size.rows := by
      rw [Int.toNat_natCast, Texture.level0Size_eq, hlen, Nat.mul_div_cancel _ hpos]
    have hloop : (forM (List.range (c.texture.size.cols * c.texture.size.rows)) fun i =>
          change fun s : Canvas => s.put (i * px.length) px) =
        forM (Window.covering c.texture.size).texels fun p =>
          change fun s : Canvas => s.put (c.texture.offset p) px := by
      rw [← List.forM_map (g := c.texture.offset)
          (f := fun d => change fun s : Canvas => s.put d px),
        Texture.map_offset_texels, List.forM_map, hlen]
    have hround : ∀ p ∈ (Window.covering c.texture.size).texels, ∀ s : Canvas,
        s.texture.config = c.texture.config →
          (change fun s : Canvas => s.put (c.texture.offset p) px).run s =
            .ok (.ok (), s.paintTexel (fun _ _ => px) p) ∧
          (s.paintTexel (fun _ _ => px) p).texture.config = c.texture.config := by
      intro p _ s hs
      exact ⟨by rw [run_change, put_eq_paintTexel hs hlen], hs⟩
    simp only [fill, run_bind, run_state, andThen_ok, if_neg hne, run_checked (level0Length_eq _),
      hcount]
    rw [hloop, (run_forM _ hround c rfl).1, foldl_paintTexel, endUp, fillWrites, if_pos hlen,
      Texture.fill, if_pos hlen, Texture.paint_eq, allOffsets, List.append_nil]
  · rw [endUp, fillWrites, if_neg hlen, Texture.fill, if_neg hlen, List.append_nil, List.append_nil]
    simp only [fill, run_bind, run_state, andThen_ok, if_pos (Or.inl hlen : _ ∨ px = []), run_pure]

/-! ## Planes -/

/-- Writes one row of a plane, from every `divisor`-th pixel of a row of the source. -/
def convertRow (src : Texture) (srcLayout dstLayout : Layout) (divisor cols : Int)
    (op : List UInt8 → List UInt8 → Checked (List UInt8)) (y : Int) : InPlace Canvas Unit := do
  let sy ← checked (Word.u64.hold (y * divisor))
  forM (wholeNumbers 0 cols) fun x => do
    let sx ← checked (Word.u64.hold (x * divisor))
    writePixel op src srcLayout dstLayout sx sy x y

/-- Writes every pixel of the canvas from the source pixel at `divisor` times its coordinates. -/
def convertPlane (src : Texture) (divisor : Int)
    (op : List UInt8 → List UInt8 → Checked (List UInt8)) : InPlace Canvas Unit := do
  let dst := (← state).texture
  let srcLayout ← checked (layoutOf src)
  let dstLayout ← checked (layoutOf dst)
  forM (wholeNumbers 0 dst.size.rows)
    (convertRow src srcLayout dstLayout divisor dst.size.cols op)

/-- What a loop over a plane is entered with: the source has all the pixels that are taken, and the
operation, done on two pixels, gives one as long as the old one. -/
structure Converts (src dst : Texture) (divisor : Nat)
    (op : List UInt8 → List UInt8 → Checked (List UInt8))
    (f : List UInt8 → List UInt8 → List UInt8) : Prop where
  divisor_lt : divisor < 2 ^ 32
  contains : ∀ p, dst.contains p = true → src.contains ⟨p.x * divisor, p.y * divisor⟩ = true
  op_eq : ∀ old new, old.length = dst.bytesPerPixel → new.length = src.bytesPerPixel →
    op old new = .ok (f old new)
  length_eq : ∀ old new, old.length = dst.bytesPerPixel → new.length = src.bytesPerPixel →
    (f old new).length = dst.bytesPerPixel

/-- What a loop over a plane makes of each pixel. -/
def planeRule (src : Texture) (divisor : Nat) (f : List UInt8 → List UInt8 → List UInt8) (p : Texel)
    (old : List UInt8) : List UInt8 :=
  f old (src.pixel ⟨p.x * divisor, p.y * divisor⟩)

variable {src dst : Texture} {divisor : Nat} {c : Canvas}
  {op : List UInt8 → List UInt8 → Checked (List UInt8)}
  {f : List UInt8 → List UInt8 → List UInt8}

/-- A coordinate that is multiplied stays a 64-bit number. -/
theorem hold_mul {n size : Nat} (hn : n < size) (hsize : size < 2 ^ 32) (hd : divisor < 2 ^ 32) :
    Word.u64.hold ((n : Int) * divisor) = .ok ((n * divisor : Nat) : Int) := by
  have hle : n * divisor ≤ 2 ^ 32 * (2 ^ 32 - 1) := Nat.mul_le_mul (by omega) (by omega)
  rw [← Int.natCast_mul]
  exact Word.hold_natCast (by omega)

/-- One pixel of a plane. -/
theorem run_convertPixel (h : Converts src dst divisor op f) (hc : c.texture.config = dst.config)
    {p : Texel} (hp : dst.contains p = true) :
    (writePixel op src (Layout.of src) (Layout.of dst) ((p.x * divisor : Nat) : Int)
        ((p.y * divisor : Nat) : Int) p.x p.y).run c =
      .ok (.ok (), c.paintTexel (planeRule src divisor f) p) := by
  have hq := h.contains p hp
  have hbpp := Texture.bytesPerPixel_of_config hc
  have hold : (c.texture.pixel p).length = dst.bytesPerPixel :=
    (Texture.length_pixel ((Texture.contains_of_config hc p).trans hp)).trans hbpp
  have hnew := Texture.length_pixel hq
  rw [run_writePixel hc hq hp (h.op_eq _ _ hold hnew), paintTexel, planeRule,
    List.take_of_length_le (by rw [h.length_eq _ _ hold hnew, hbpp])]

/-- One row of a plane. -/
theorem run_convertRow (h : Converts src dst divisor op f) (hc : c.texture.config = dst.config)
    {y : Nat} (hy : y < dst.size.rows) :
    (convertRow src (Layout.of src) (Layout.of dst) divisor dst.size.cols op y).run c =
      .ok (.ok (), ((List.range dst.size.cols).map (Texel.mk · y)).foldl
        (paintTexel (planeRule src divisor f)) c) := by
  have hround : ∀ x ∈ List.range dst.size.cols, ∀ s : Canvas, s.texture.config = dst.config →
      (do
        let sx ← checked (Word.u64.hold ((x : Int) * divisor))
        writePixel op src (Layout.of src) (Layout.of dst) sx ((y * divisor : Nat) : Int) x
          y).run s =
          .ok (.ok (), s.paintTexel (planeRule src divisor f) ⟨x, y⟩) ∧
        (s.paintTexel (planeRule src divisor f) ⟨x, y⟩).texture.config = dst.config := by
    intro x hx s hs
    have hx' := List.mem_range.mp hx
    refine ⟨?_, hs⟩
    rw [run_bind, run_checked (hold_mul hx' dst.size.cols_lt h.divisor_lt), andThen_ok]
    exact run_convertPixel (p := ⟨x, y⟩) h hs (Texture.contains_iff.mpr ⟨hx', hy⟩)
  rw [convertRow, run_bind, run_checked (hold_mul hy dst.size.rows_lt h.divisor_lt), andThen_ok,
    wholeNumbers_zero, List.forM_map, (run_forM _ hround c hc).1, List.foldl_map]

/-- **The loop over a plane ends**, and paints the pixels one by one. -/
theorem run_convertPlane (h : Converts src c.texture divisor op f) :
    (convertPlane src divisor op).run c = .ok (.ok (), {
      texture := BlitDevice.convertPlane src c.texture divisor f
      log := c.log
      writes := c.writes ++ allOffsets c.texture }) := by
  have hround : ∀ y ∈ List.range c.texture.size.rows, ∀ s : Canvas,
      s.texture.config = c.texture.config →
        (convertRow src (Layout.of src) (Layout.of c.texture) divisor c.texture.size.cols op
          y).run s =
          .ok (.ok (), ((List.range c.texture.size.cols).map (Texel.mk · y)).foldl
            (paintTexel (planeRule src divisor f)) s) ∧
        (((List.range c.texture.size.cols).map (Texel.mk · y)).foldl
          (paintTexel (planeRule src divisor f)) s).texture.config = c.texture.config := by
    intro y hy s hs
    refine ⟨run_convertRow h hs (List.mem_range.mp hy), ?_⟩
    rw [foldl_paintTexel]
    exact hs
  simp only [convertPlane, run_bind, run_state, andThen_ok, run_checked (layoutOf_eq _),
    wholeNumbers_zero, List.forM_map]
  rw [(run_forM _ hround c rfl).1, ← List.foldl_flatMap, ← Window.texels_covering, foldl_paintTexel,
    BlitDevice.convertPlane, Texture.paint_eq]
  rfl

/-! ## Luma -/

/-- Writes the luma of a pixel over the first byte of another; `r`, `g` and `b` are where the
colours stand. -/
def lumaOp (color : Vec4 Float32) (r g b : Nat) (old new : List UInt8) : Checked (List UInt8) :=
  match new[r]?, new[g]?, new[b]?, old with
  | some red, some green, some blue, _ :: rest => .ok (lumaByte color red green blue :: rest)
  | _, _, _, _ => .error .outOfBounds

/-- Computes the luma plane of a texture. -/
def luma (src : Texture) (color : Vec4 Float32) : InPlace Canvas Unit := do
  let dst := (← state).texture
  if src.size ≠ dst.size then refuse (.resolutionMismatch src.size dst.size)
  else if !dst.format.isLuma then refuse (.unsupportedLumaFormat dst.format)
  else
    match src.format.rgbOffsets? with
    | none => refuse (.unsupportedFormatPair src.format dst.format)
    | some (r, g, b) => convertPlane src 1 (lumaOp color r g b)

/-- A pixel with colours is long enough for each of them. -/
theorem rgbOffsets_lt {f : PixelFormat} {r g b : Nat} (h : f.rgbOffsets? = some (r, g, b)) :
    r < f.bytesPerPixel ∧ g < f.bytesPerPixel ∧ b < f.bytesPerPixel := by
  cases f <;> first | cases h; decide | cases h

theorem bytesPerPixel_of_isLuma {f : PixelFormat} (h : f.isLuma = true) : f.bytesPerPixel = 1 := by
  cases f <;> first | rfl | cases h

theorem lumaOp_eq {color : Vec4 Float32} {r g b : Nat} {old new : List UInt8}
    (hr : r < new.length) (hg : g < new.length) (hb : b < new.length) (hold : old.length = 1) :
    lumaOp color r g b old new =
      .ok [lumaByte color (new.getD r 0) (new.getD g 0) (new.getD b 0)] := by
  obtain ⟨v, rfl⟩ := List.length_eq_one_iff.mp hold
  simp only [lumaOp, List.getElem?_eq_getElem hr, List.getElem?_eq_getElem hg,
    List.getElem?_eq_getElem hb, List.getD_eq_getElem?_getD, Option.getD_some]

/-- A texture of the same size whose format has colours can be taken from. -/
theorem converts_luma (color : Vec4 Float32) {r g b : Nat} (hsize : src.size = dst.size)
    (hluma : dst.format.isLuma = true) (hrgb : src.format.rgbOffsets? = some (r, g, b)) :
    Converts src dst 1 (lumaOp color r g b) fun _ px =>
      [lumaByte color (px.getD r 0) (px.getD g 0) (px.getD b 0)] := by
  have hone : dst.bytesPerPixel = 1 := bytesPerPixel_of_isLuma hluma
  obtain ⟨hr, hg, hb⟩ := rgbOffsets_lt hrgb
  refine ⟨by decide, ?_, ?_, fun _ _ _ _ => hone.symm⟩
  · intro p hp
    rwa [Nat.mul_one, Nat.mul_one, Texture.contains, hsize]
  · intro old new hold hnew
    have hnew' : new.length = src.format.bytesPerPixel := hnew
    exact lumaOp_eq (by omega) (by omega) (by omega) (hold.trans hone)

/-- Where a luma plane is written. -/
def lumaWrites (src dst : Texture) (color : Vec4 Float32) : List Nat :=
  match convertToLuma src dst color with
  | .ok _ => allOffsets dst
  | .error _ => []

theorem run_luma (src : Texture) (color : Vec4 Float32) (c : Canvas) :
    (luma src color).run c = .ok (c.endUp (lumaWrites src c.texture color)
      ((convertToLuma src c.texture color).map fun t => (t, []))) := by
  unfold lumaWrites convertToLuma luma
  simp only [run_bind, run_state, andThen_ok]
  by_cases hsize : src.size ≠ c.texture.size
  · simp only [if_pos hsize, run_refuse]
    rfl
  · by_cases hluma : (!c.texture.format.isLuma) = true
    · simp only [if_neg hsize, if_pos hluma, run_refuse]
      rfl
    · simp only [if_neg hsize, if_neg hluma]
      have hformat : c.texture.format.isLuma = true := by simpa using hluma
      cases hrgb : src.format.rgbOffsets? with
      | none => rfl
      | some rgb =>
        obtain ⟨r, g, b⟩ := rgb
        have h := converts_luma color (not_not.mp hsize) hformat hrgb
        have hrun := run_convertPlane h
        rw [Nat.cast_one] at hrun
        simp only [hrun, Except.map, endUp, List.append_nil]

end BlitDevice.Canvas
