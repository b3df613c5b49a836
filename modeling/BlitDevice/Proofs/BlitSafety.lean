import BlitDevice.Proofs.Canvas
import BlitDevice.Proofs.Sampling

/-!
# Blits on machine words

A blit as it is carried out: on 64-bit rectangles, with every sum, product, quotient and change of
word checked, every slice of a buffer checked, and the destination written pixel by pixel.

* `scaleAxis`, `visibleOffsets`, `landing` — the coordinates, on words; none faults where a blit
  asks for it: `scaleAxis_eq`, `visibleOffsets_eq`, `landing_eq`.
* `Canvas.blitByPixel`, `Canvas.blit` — the loop and the whole blit.
* `Canvas.run_blitByPixel`, `Canvas.run_blit` — they end without a fault, and as `blitByPixel` and
  `blit` say.
* `blit_never_faults` — the same for all textures and rectangles, with where the writes go.
-/

set_option autoImplicit false

namespace BlitDevice

/-! ## Coordinates on words -/

/-- `origin + ⌊offset * extent / span⌋`, held inside a source of the given size. -/
def scaleAxis (offset origin extent span : Int) (size : Nat) : Checked Int := do
  let product ← Word.i128.hold (offset * extent)
  let scaled ← euclidean .i128 product span
  let coordinate ← Word.i128.hold (origin + scaled)
  let last ← Word.i128.hold (size - 1)
  Word.u32.hold (← clampTo 0 last coordinate)

/-- The offsets along one axis that land inside a destination of the given size. -/
def visibleOffsets (origin extent : Int) (size : Nat) : Checked (List Int) := do
  let start := max (← Word.i128.hold (-origin)) 0
  let stop := min extent (← Word.i128.hold (size - origin))
  if stop ≤ start then return []
  return wholeNumbers (← Word.i64.hold start) (← Word.i64.hold stop)

/-- The coordinate an offset lands on. -/
def landing (origin offset : Int) : Checked Int := do
  Word.u64.hold (← Word.i64.hold (origin + offset))

/-- The operation on a destination and a source pixel, each of which needs four bytes. -/
def PixelOp.apply (op : PixelOp) (dst src : List UInt8) : Checked (List UInt8) :=
  match op.write? dst src with
  | some px => .ok px
  | none => .error .outOfBounds

/-- The rectangle of all of a texture. -/
def coveringWords (s : Size) : Checked Rect := do
  return ⟨0, 0, ← Word.i64.hold s.cols, ← Word.i64.hold s.rows⟩

/-! ## No coordinate faults -/

theorem scaleAxis_eq {offset origin extent span : Int} {size : Nat} (ho : Word.i64.Holds offset)
    (hg : Word.i64.Holds origin) (he : Word.i64.Holds extent) (hs : 0 < span) (h0 : 0 < size)
    (h32 : size < 2 ^ 32) :
    scaleAxis offset origin extent span size =
      .ok (sourceCoord offset origin extent span size : Int) := by
  obtain ⟨hp1, hp2⟩ := abs_le.mp (Word.abs_mul_le ho he)
  obtain ⟨hq1, hq2⟩ := abs_le.mp ((abs_ediv_le hs).trans (Word.abs_mul_le ho he))
  rw [Word.holds_i64] at hg
  have hproduct : Word.i128.hold (offset * extent) = .ok (offset * extent) :=
    Word.hold_eq (Word.holds_i128.mpr ⟨by omega, by omega⟩)
  have hscaled : euclidean .i128 (offset * extent) span = .ok (offset * extent / span) := by
    rw [euclidean, if_pos hs]
    exact Word.hold_eq (Word.holds_i128.mpr ⟨by omega, by omega⟩)
  have hcoord : Word.i128.hold (origin + offset * extent / span) =
      .ok (origin + offset * extent / span) :=
    Word.hold_eq (Word.holds_i128.mpr ⟨by omega, by omega⟩)
  have hlast : Word.i128.hold ((size : Int) - 1) = .ok ((size : Int) - 1) :=
    Word.hold_eq (Word.holds_i128.mpr ⟨by omega, by omega⟩)
  have hclamp : clampTo 0 ((size : Int) - 1) (origin + offset * extent / span) =
      .ok (sourceCoord offset origin extent span size : Int) := by
    rw [clampTo, if_pos (by omega), sourceCoord]
    generalize origin + offset * extent / span = v
    congr 1
    split
    · omega
    · split <;> omega
  have hcast : Word.u32.hold (sourceCoord offset origin extent span size : Int) =
      .ok (sourceCoord offset origin extent span size : Int) := by
    refine Word.hold_eq (Word.holds_u32.mpr ⟨by omega, ?_⟩)
    rw [sourceCoord]; omega
  simp only [scaleAxis, hproduct, hscaled, hcoord, hlast, hclamp, hcast, ok_bind]

/-- The window's columns, or its rows, are where the visible offsets land. -/
theorem visibleOffsets_eq {origin extent : Int} {size : Nat} (ho : Word.i64.Holds origin)
    (he : Word.i64.Holds extent) (h32 : size < 2 ^ 32) :
    ∃ xs, visibleOffsets origin extent size = .ok xs ∧
      (∀ x ∈ xs, (0 ≤ x ∧ x < extent) ∧ 0 ≤ origin + x ∧ origin + x < size) ∧
      xs.map (fun x => (origin + x).toNat) =
        List.range' (max origin 0).toNat
          ((min (origin + extent) size).toNat - (max origin 0).toNat) := by
  rw [Word.holds_i64] at ho he
  have hneg : Word.i128.hold (-origin) = .ok (-origin) :=
    Word.hold_eq (Word.holds_i128.mpr ⟨by omega, by omega⟩)
  have hrest : Word.i128.hold ((size : Int) - origin) = .ok ((size : Int) - origin) :=
    Word.hold_eq (Word.holds_i128.mpr ⟨by omega, by omega⟩)
  obtain ⟨start, hstart⟩ : ∃ v, v = max (-origin) 0 := ⟨_, rfl⟩
  obtain ⟨stop, hstop⟩ : ∃ v, v = min extent ((size : Int) - origin) := ⟨_, rfl⟩
  have hrun : visibleOffsets origin extent size =
      if stop ≤ start then .ok [] else do
        return wholeNumbers (← Word.i64.hold start) (← Word.i64.hold stop) := by
    rw [hstart, hstop]
    simp only [visibleOffsets, hneg, hrest, ok_bind, Checked.pure_eq]
  by_cases hempty : stop ≤ start
  · refine ⟨[], by rw [hrun, if_pos hempty], by simp, ?_⟩
    rw [show (min (origin + extent) (size : Int)).toNat - (max origin 0).toNat = 0 by omega]
    rfl
  · -- a range that is not empty has its ends inside the extent, so they are 64-bit numbers too
    have hfirst : Word.i64.hold start = .ok start :=
      Word.hold_eq (Word.holds_i64.mpr ⟨by omega, by omega⟩)
    have hlast : Word.i64.hold stop = .ok stop :=
      Word.hold_eq (Word.holds_i64.mpr ⟨by omega, by omega⟩)
    refine ⟨wholeNumbers start stop, ?_, ?_, ?_⟩
    · rw [hrun, if_neg hempty, hfirst, hlast]
      rfl
    · intro x hx
      obtain ⟨h1, h2⟩ := mem_wholeNumbers.mp hx
      omega
    · rw [wholeNumbers, List.map_map, List.range'_eq_map_range,
        show (min (origin + extent) (size : Int)).toNat - (max origin 0).toNat =
          (stop - start).toNat by omega]
      apply List.map_congr_left
      intro i _
      simp only [Function.comp_apply]
      omega

theorem landing_eq {origin offset : Int} {size : Nat} (h0 : 0 ≤ origin + offset)
    (h1 : origin + offset < size) (h32 : size < 2 ^ 32) :
    landing origin offset = .ok (origin + offset) := by
  have hsum : Word.i64.hold (origin + offset) = .ok (origin + offset) :=
    Word.hold_eq (Word.holds_i64.mpr ⟨by omega, by omega⟩)
  have hcast : Word.u64.hold (origin + offset) = .ok (origin + offset) :=
    Word.hold_eq (Word.holds_u64.mpr ⟨by omega, by omega⟩)
  simp only [landing, hsum, hcast, ok_bind]

theorem Rect.InRange.holds {r : Rect} (h : r.InRange) :
    Word.i64.Holds r.x ∧ Word.i64.Holds r.y ∧ Word.i64.Holds r.width ∧ Word.i64.Holds r.height := by
  simp only [Word.holds_i64]
  exact ⟨h r.x (by simp), h r.y (by simp), h r.width (by simp), h r.height (by simp)⟩

theorem Rect.inRange_of_bounds {x y width height : Int} (hx : -2 ^ 63 ≤ x ∧ x < 2 ^ 63)
    (hy : -2 ^ 63 ≤ y ∧ y < 2 ^ 63) (hw : -2 ^ 63 ≤ width ∧ width < 2 ^ 63)
    (hh : -2 ^ 63 ≤ height ∧ height < 2 ^ 63) : Rect.InRange ⟨x, y, width, height⟩ := by
  intro v hv
  simp only [List.mem_cons, List.not_mem_nil, or_false] at hv
  rcases hv with rfl | rfl | rfl | rfl <;> assumption

theorem Rect.inRange_covering (s : Size) : (Rect.covering s).InRange := by
  have hc := s.cols_lt
  have hr := s.rows_lt
  exact Rect.inRange_of_bounds (by omega) (by omega) (by omega) (by omega)

theorem PixelOp.apply_eq (op : PixelOp) {old new : List UInt8} (ho : old.length = 4)
    (hn : new.length = 4) : op.apply old new = .ok (op.result new) := by
  rw [apply, write?_eq op ho hn]

theorem coveringWords_eq (s : Size) : coveringWords s = .ok (Rect.covering s) := by
  have hc := s.cols_lt
  have hr := s.rows_lt
  have hcols : Word.i64.hold (s.cols : Int) = .ok (s.cols : Int) :=
    Word.hold_eq (Word.holds_i64.mpr ⟨by omega, by omega⟩)
  have hrows : Word.i64.hold (s.rows : Int) = .ok (s.rows : Int) :=
    Word.hold_eq (Word.holds_i64.mpr ⟨by omega, by omega⟩)
  simp only [coveringWords, hcols, hrows, ok_bind, Checked.pure_eq, Rect.covering]

/-! ## The loop -/

namespace Canvas

open InPlace

/-- Writes the pixel of a row at a visible offset. -/
def samplePixel (op : PixelOp) (src : Texture) (srcRect dstRect : Rect)
    (srcLayout dstLayout : Layout) (sy dy x : Int) : InPlace Canvas Unit := do
  let dx ← checked (landing dstRect.x x)
  let sx ← checked (scaleAxis x srcRect.x srcRect.width dstRect.width src.size.cols)
  writePixel op.apply src srcLayout dstLayout sx sy dx dy

/-- Writes the row at a visible offset. -/
def sampleRow (op : PixelOp) (src : Texture) (srcRect dstRect : Rect)
    (srcLayout dstLayout : Layout) (xs : List Int) (y : Int) : InPlace Canvas Unit := do
  let dy ← checked (landing dstRect.y y)
  let sy ← checked (scaleAxis y srcRect.y srcRect.height dstRect.height src.size.rows)
  forM xs fun x => samplePixel op src srcRect dstRect srcLayout dstLayout sy dy x

/-- Gives every visible pixel of the canvas its pixel from the source, row by row. -/
def resample (op : PixelOp) (src : Texture) (srcRect dstRect : Rect) : InPlace Canvas Unit := do
  let dst := (← state).texture
  let srcLayout ← checked (layoutOf src)
  let dstLayout ← checked (layoutOf dst)
  let xs ← checked (visibleOffsets dstRect.x dstRect.width dst.size.cols)
  let ys ← checked (visibleOffsets dstRect.y dstRect.height dst.size.rows)
  forM ys fun y => sampleRow op src srcRect dstRect srcLayout dstLayout xs y

/-- Resamples, if the formats have an operation and there is anything to write. -/
def blitByPixel (src : Texture) (srcRect dstRect : Rect) : InPlace Canvas Unit := do
  let dst := (← state).texture
  match PixelOp.between? src.format dst.format with
  | none => refuse (.unsupportedFormatPair src.format dst.format)
  | some op =>
    if NothingToBlit src dstRect then return ()
    else do
      tell (.blitting srcRect dstRect)
      resample op src srcRect dstRect

/-- Copies a rectangle of a texture into a rectangle of the canvas, scaled to fit. -/
def blit (src : Texture) (srcRect dstRect : Rect) : InPlace Canvas Unit := do
  let dst := (← state).texture
  let allOfSrc ← checked (coveringWords src.size)
  let allOfDst ← checked (coveringWords dst.size)
  if src.format = dst.format ∧ src.size = dst.size ∧ srcRect = allOfSrc ∧ dstRect = allOfDst then
    copyLevel0 src
  else blitByPixel src srcRect dstRect

end Canvas

/-! ## The loop runs through -/

namespace Canvas

open InPlace

/-- What the loop is entered with. -/
structure Resamples (op : PixelOp) (src dst : Texture) (srcRect dstRect : Rect) : Prop where
  between : PixelOp.between? src.format dst.format = some op
  cols_pos : 0 < src.size.cols
  rows_pos : 0 < src.size.rows
  width_pos : 0 < dstRect.width
  height_pos : 0 < dstRect.height
  srcRange : srcRect.InRange
  dstRange : dstRect.InRange

variable {op : PixelOp} {src dst : Texture} {srcRect dstRect : Rect} {c : Canvas}

/-- One pixel: the canvas gets what the operation makes of the sampled one. -/
theorem run_samplePixel (h : Resamples op src dst srcRect dstRect)
    (hc : c.texture.config = dst.config) {p : Texel} (hp : dst.contains p = true) {x : Int}
    (hx : (p.x : Int) = dstRect.x + x) (hx0 : 0 ≤ x) (hx1 : x < dstRect.width) :
    (samplePixel op src srcRect dstRect (Layout.of src) (Layout.of dst)
        (sourceTexel src.size srcRect dstRect p).y p.y x).run c =
      .ok (.ok (), c.paintTexel (samplingRule op src srcRect dstRect) p) := by
  obtain ⟨hpx, _⟩ := Texture.contains_iff.mp hp
  obtain ⟨hsx, _, hsw, _⟩ := h.srcRange.holds
  obtain ⟨_, _, hdw, _⟩ := h.dstRange.holds
  have hp' : c.texture.contains p = true := (Texture.contains_of_config hc p).trans hp
  have hop : PixelOp.between? src.format c.texture.format = some op := by
    rw [Texture.format_of_config hc]; exact h.between
  have hbpp : c.texture.bytesPerPixel = 4 := (PixelOp.bytesPerPixel_of_between? hop).2
  have hold : (c.texture.pixel p).length = 4 := (Texture.length_pixel hp').trans hbpp
  have hnew := length_sourcePixel hop h.cols_pos h.rows_pos srcRect dstRect p
  have hlanding : landing dstRect.x x = .ok (p.x : Int) := by
    rw [hx]; exact landing_eq (by omega) (by omega) dst.size.cols_lt
  have hscale : scaleAxis x srcRect.x srcRect.width dstRect.width src.size.cols =
      .ok ((sourceTexel src.size srcRect dstRect p).x : Int) := by
    rw [sourceTexel, show x = (p.x : Int) - dstRect.x by omega]
    rw [Word.holds_i64] at hdw
    exact scaleAxis_eq (Word.holds_i64.mpr ⟨by omega, by omega⟩) hsx hsw h.width_pos h.cols_pos
      src.size.cols_lt
  have hwrite := run_writePixel hc
    (contains_sourceTexel h.cols_pos h.rows_pos srcRect dstRect p) hp
    (PixelOp.apply_eq op hold hnew)
  simp only [samplePixel, run_bind, run_checked hlanding, run_checked hscale, andThen_ok, hwrite]
  rw [paintTexel, samplingRule_eq hop h.cols_pos h.rows_pos (hold.trans hbpp.symm),
    List.take_of_length_le (by rw [PixelOp.length_result op hnew, hbpp])]

/-- The texel that two offsets from a rectangle's origin come to. -/
def texelAt (r : Rect) (x y : Int) : Texel := ⟨(r.x + x).toNat, (r.y + y).toNat⟩

/-- One row: its pixels one by one. -/
theorem run_sampleRow (h : Resamples op src dst srcRect dstRect)
    (hc : c.texture.config = dst.config) {xs : List Int}
    (hxs : ∀ x ∈ xs, (0 ≤ x ∧ x < dstRect.width) ∧ 0 ≤ dstRect.x + x ∧
      dstRect.x + x < dst.size.cols) {y : Int}
    (hy : (0 ≤ y ∧ y < dstRect.height) ∧ 0 ≤ dstRect.y + y ∧ dstRect.y + y < dst.size.rows) :
    (sampleRow op src srcRect dstRect (Layout.of src) (Layout.of dst) xs y).run c =
      .ok (.ok (), (xs.map fun x => texelAt dstRect x y).foldl
        (paintTexel (samplingRule op src srcRect dstRect)) c) := by
  obtain ⟨_, hsy, _, hsh⟩ := h.srcRange.holds
  obtain ⟨_, _, _, hdh⟩ := h.dstRange.holds
  rw [Word.holds_i64] at hdh
  obtain ⟨⟨hy0, hy1⟩, hl0, hl1⟩ := hy
  have hplace : ∀ x, ((texelAt dstRect x y).y : Int) = dstRect.y + y := fun x =>
    Int.toNat_of_nonneg hl0
  have hlanding := landing_eq hl0 hl1 dst.size.rows_lt
  have hscale : ∀ x, scaleAxis y srcRect.y srcRect.height dstRect.height src.size.rows =
      .ok ((sourceTexel src.size srcRect dstRect (texelAt dstRect x y)).y : Int) := by
    intro x
    rw [sourceTexel, hplace, show dstRect.y + y - dstRect.y = y by omega]
    exact scaleAxis_eq (Word.holds_i64.mpr ⟨by omega, by omega⟩) hsy hsh h.height_pos h.rows_pos
      src.size.rows_lt
  have hrun : ∀ x ∈ xs, ∀ c : Canvas, c.texture.config = dst.config →
      (samplePixel op src srcRect dstRect (Layout.of src) (Layout.of dst)
          (sourceTexel src.size srcRect dstRect (texelAt dstRect 0 y)).y (dstRect.y + y) x).run c =
        .ok (.ok (), c.paintTexel (samplingRule op src srcRect dstRect) (texelAt dstRect x y)) ∧
      (c.paintTexel (samplingRule op src srcRect dstRect) (texelAt dstRect x y)).texture.config =
        dst.config := by
    intro x hx c hc
    obtain ⟨⟨hx0, hx1⟩, hk0, hk1⟩ := hxs x hx
    have hpx : ((texelAt dstRect x y).x : Int) = dstRect.x + x := Int.toNat_of_nonneg hk0
    have hp : dst.contains (texelAt dstRect x y) = true := by
      rw [Texture.contains_iff]
      have := hplace x
      omega
    have := run_samplePixel h hc hp hpx hx0 hx1
    rw [hplace] at this
    exact ⟨this, hc⟩
  simp only [sampleRow, run_bind, run_checked hlanding, run_checked (hscale 0), andThen_ok]
  rw [(run_forM xs hrun c hc).1, List.foldl_map]

/-- The rows and columns of visible offsets come to the texels of the window. -/
theorem flatMap_texelAt {xs ys : List Int} {r : Rect} {s : Size}
    (hx : xs.map (fun x => (r.x + x).toNat) =
      List.range' (r.visible s).left ((r.visible s).right - (r.visible s).left))
    (hy : ys.map (fun y => (r.y + y).toNat) =
      List.range' (r.visible s).top ((r.visible s).bottom - (r.visible s).top)) :
    ys.flatMap (fun y => xs.map fun x => texelAt r x y) = (r.visible s).texels := by
  rw [Window.texels_eq, Window.columns, ← hx, ← hy, List.flatMap_map]
  simp only [List.map_map]
  rfl

/-- **The loop runs through**, and paints the visible texels one by one. -/
theorem run_resample (h : Resamples op src c.texture srcRect dstRect) :
    (resample op src srcRect dstRect).run c =
      .ok (.ok (), (dstRect.visible c.texture.size).texels.foldl
        (paintTexel (samplingRule op src srcRect dstRect)) c) := by
  obtain ⟨hdx, hdy, hdw, hdh⟩ := h.dstRange.holds
  obtain ⟨xs, hxs, hx, hxmap⟩ := visibleOffsets_eq hdx hdw c.texture.size.cols_lt
  obtain ⟨ys, hys, hy, hymap⟩ := visibleOffsets_eq hdy hdh c.texture.size.rows_lt
  have hrun : ∀ y ∈ ys, ∀ c' : Canvas, c'.texture.config = c.texture.config →
      (sampleRow op src srcRect dstRect (Layout.of src) (Layout.of c.texture) xs y).run c' =
        .ok (.ok (), (xs.map fun x => texelAt dstRect x y).foldl
          (paintTexel (samplingRule op src srcRect dstRect)) c') ∧
      ((xs.map fun x => texelAt dstRect x y).foldl
        (paintTexel (samplingRule op src srcRect dstRect)) c').texture.config =
          c.texture.config := by
    intro y hmem c' hc'
    refine ⟨run_sampleRow h hc' hx (hy y hmem), ?_⟩
    rw [foldl_paintTexel]
    exact hc'
  simp only [resample, run_bind, run_state, andThen_ok, run_checked (layoutOf_eq src),
    run_checked (layoutOf_eq c.texture), run_checked hxs, run_checked hys]
  rw [(run_forM ys hrun c rfl).1, ← flatMap_texelAt hxmap hymap, List.foldl_flatMap]

/-- Where the pixels start that are written one by one, first to last. -/
def pixelWrites (src dst : Texture) (dstRect : Rect) : List Nat :=
  if NothingToBlit src dstRect then []
  else (dstRect.visible dst.size).texels.map dst.offset

theorem run_blitByPixel (src : Texture) (hs : srcRect.InRange) (hd : dstRect.InRange) (c : Canvas) :
    (blitByPixel src srcRect dstRect).run c =
      .ok (c.endUp (pixelWrites src c.texture dstRect)
        (BlitDevice.blitByPixel src c.texture srcRect dstRect)) := by
  simp only [blitByPixel, BlitDevice.blitByPixel, run_bind, run_state, andThen_ok]
  cases hop : PixelOp.between? src.format c.texture.format with
  | none => rfl
  | some op =>
    by_cases hn : NothingToBlit src dstRect
    · simp only [if_pos hn, run_pure, pixelWrites, endUp, List.append_nil]
    · have hpos : 0 < src.size.cols ∧ 0 < src.size.rows ∧ 0 < dstRect.width ∧
          0 < dstRect.height := by
        unfold NothingToBlit Rect.IsEmpty at hn
        omega
      have h : Resamples op src c.texture srcRect dstRect :=
        ⟨hop, hpos.1, hpos.2.1, hpos.2.2.1, hpos.2.2.2, hs, hd⟩
      have hrun := run_resample (c := { c with log := c.log ++ [.blitting srcRect dstRect] }) h
      simp only [if_neg hn, run_bind, run_tell, andThen_ok, pixelWrites, endUp, Telling.add]
      rw [hrun, foldl_paintTexel, resample_eq_paint, Texture.paint_eq]

/-- Where the pixels start that a blit writes one by one; copying level 0 as a whole writes none
so. -/
def blitWrites (src dst : Texture) (srcRect dstRect : Rect) : List Nat :=
  if IsWholeCopy src dst srcRect dstRect then [] else pixelWrites src dst dstRect

theorem run_blit (src : Texture) (hs : srcRect.InRange) (hd : dstRect.InRange) (c : Canvas) :
    (blit src srcRect dstRect).run c =
      .ok (c.endUp (blitWrites src c.texture srcRect dstRect)
        (BlitDevice.blit src c.texture srcRect dstRect)) := by
  simp only [blit, run_bind, run_state, andThen_ok, run_checked (coveringWords_eq _)]
  by_cases h : IsWholeCopy src c.texture srcRect dstRect
  · rw [if_pos (show _ ∧ _ ∧ _ ∧ _ from h), BlitDevice.blit, dif_pos h, blitWrites, if_pos h,
      run_copyLevel0 h.size_level0]
    simp only [endUp, List.append_nil]
  · rw [if_neg (show ¬(_ ∧ _ ∧ _ ∧ _) from h), run_blitByPixel src hs hd, BlitDevice.blit,
      dif_neg h, blitWrites, if_neg h]

/-- Without an operation, and without being a whole copy, a blit stops before it writes. -/
theorem run_blit_of_between?_eq_none (hw : ¬ IsWholeCopy src c.texture srcRect dstRect)
    (hop : PixelOp.between? src.format c.texture.format = none) :
    (blit src srcRect dstRect).run c =
      .ok (.error (.unsupportedFormatPair src.format c.texture.format), c) := by
  simp only [blit, blitByPixel, run_bind, run_state, andThen_ok, run_checked (coveringWords_eq _)]
  rw [if_neg (show ¬(_ ∧ _ ∧ _ ∧ _) from hw)]
  simp only [run_bind, run_state, andThen_ok, hop, run_refuse]

/-- Every pixel written one by one lies inside level 0. -/
theorem add_le_of_mem_blitWrites {d : Nat} (h : d ∈ blitWrites src dst srcRect dstRect) :
    d + dst.bytesPerPixel ≤ dst.level0Size := by
  unfold blitWrites pixelWrites at h
  split at h
  · cases h
  · split at h
    · cases h
    · obtain ⟨p, hp, rfl⟩ := List.mem_map.mp h
      exact Texture.offset_add_le (visible_subset p hp)

end Canvas

/-- **A blit never faults**: on 64-bit rectangles it ends, with every value in its word and every
slice inside its buffer, and comes to what `blit` says. -/
theorem blit_never_faults (src dst : Texture) {srcRect dstRect : Rect} (hs : srcRect.InRange)
    (hd : dstRect.InRange) :
    (Canvas.blit src srcRect dstRect).run { texture := dst } =
      .ok (match blit src dst srcRect dstRect with
        | .ok (t, log) =>
          (.ok (), { texture := t, log, writes := Canvas.blitWrites src dst srcRect dstRect })
        | .error e => (.error e, { texture := dst })) ∧
    ∀ d ∈ Canvas.blitWrites src dst srcRect dstRect, d + dst.bytesPerPixel ≤ dst.level0Size := by
  refine ⟨?_, fun d => Canvas.add_le_of_mem_blitWrites⟩
  rw [Canvas.run_blit src hs hd]
  dsimp only
  cases blit src dst srcRect dstRect with
  | error e => rfl
  | ok r => rfl

/-- A blue and a green pixel, side by side. -/
def twoPixels : Texture where
  size := ⟨2, 1⟩
  levels := 1
  format := .bgrx
  usage := .static
  name := ""
  bytes := #[255, 0, 0, 7, 0, 255, 0, 9]
  plain := rfl
  levels_pos := Nat.zero_lt_one
  bytes_size := rfl
  addressable := by decide

/-- Three blank pixels side by side, and a second level of them. -/
def threeBlanks : Texture where
  size := ⟨3, 1⟩
  levels := 2
  format := .rgba
  usage := .static
  name := ""
  bytes := #[0, 0, 0, 0, 0, 0, 0, 0, 0, 0, 0, 0, 0, 0, 0, 0, 0, 0, 0, 0, 0, 0, 0, 0]
  plain := rfl
  levels_pos := by decide
  bytes_size := rfl
  addressable := by decide

/-- Offsets up to the last 64-bit number, scaled by the least one: one pixel is visible, and it is
written. -/
theorem blit_extreme_rectangles :
    ∃ t, (Canvas.blit twoPixels ⟨2 ^ 63 - 1, -2 ^ 63, -2 ^ 63, 2 ^ 63 - 1⟩
        ⟨-(2 ^ 63 - 2), 0, 2 ^ 63 - 1, 1⟩).run { texture := threeBlanks } =
      .ok (.ok (), {
        texture := t
        log := [.blitting ⟨2 ^ 63 - 1, -2 ^ 63, -2 ^ 63, 2 ^ 63 - 1⟩
          ⟨-(2 ^ 63 - 2), 0, 2 ^ 63 - 1, 1⟩]
        writes := [0] }) := by
  have hs : Rect.InRange ⟨2 ^ 63 - 1, -2 ^ 63, -2 ^ 63, 2 ^ 63 - 1⟩ := by
    unfold Rect.InRange; decide
  have hd : Rect.InRange ⟨-(2 ^ 63 - 2), 0, 2 ^ 63 - 1, 1⟩ := by
    unfold Rect.InRange; decide
  have hwrites : Canvas.blitWrites twoPixels threeBlanks
      ⟨2 ^ 63 - 1, -2 ^ 63, -2 ^ 63, 2 ^ 63 - 1⟩ ⟨-(2 ^ 63 - 2), 0, 2 ^ 63 - 1, 1⟩ = [0] := by
    decide
  have hrun := (blit_never_faults twoPixels threeBlanks hs hd).1
  rw [hwrites, blit, dif_neg (by decide)] at hrun
  exact ⟨_, hrun⟩

end BlitDevice
