import BlitDevice.Blit
import BlitDevice.Proofs.Pixels

/-!
# Which pixel a blit takes from where

* `PixelOp.result` — the bytes an operation makes of a pixel; `PixelOp.write?_eq` says that a blit
  writes just these.
* `Rect.Reaches`, `mem_visible` — the visible texels of a rectangle are those of the texture that
  the rectangle holds, over the whole numbers.
* `sourceCoord_eq`, `contains_sourceTexel` — a texel is taken from a texel of the source, at the
  scaled place.
* `pixel_resample` — what resampling does to each pixel.
-/

set_option autoImplicit false

namespace BlitDevice

/-! ## Operations on pixels -/

namespace PixelOp

/-- Both formats of a pair that has an operation take four bytes. -/
theorem bytesPerPixel_of_between? {src dst : PixelFormat} {op : PixelOp}
    (h : between? src dst = some op) : src.bytesPerPixel = 4 ∧ dst.bytesPerPixel = 4 := by
  unfold between? at h
  split at h
  · exact ⟨rfl, rfl⟩
  · exact ⟨rfl, rfl⟩
  · cases h

/-- What an operation makes of a pixel of four bytes: the same, or red, green and blue the other
way round, without transparency. -/
def result : PixelOp → List UInt8 → List UInt8
  | keep, px => px
  | fromBgrx, px => [px.getD 2 0, px.getD 1 0, px.getD 0 0, 0xff]

theorem length_result (op : PixelOp) {px : List UInt8} (h : px.length = 4) :
    (op.result px).length = 4 := by
  cases op with
  | keep => exact h
  | fromBgrx => rfl

/-- Of the old pixel nothing stays. -/
theorem write?_eq (op : PixelOp) {old new : List UInt8} (ho : old.length = 4)
    (hn : new.length = 4) : op.write? old new = some (op.result new) := by
  obtain ⟨a, b, c, d, rfl⟩ : ∃ a b c d, new = [a, b, c, d] := by
    match new, hn with
    | [a, b, c, d], _ => exact ⟨a, b, c, d, rfl⟩
  rw [write?, if_neg (by omega), List.drop_of_length_le (by omega)]
  cases op with
  | keep => rfl
  | fromBgrx => rfl

end PixelOp

/-! ## Places -/

/-- The rectangle holds the texel, over the whole numbers. -/
def Rect.Reaches (r : Rect) (p : Texel) : Prop :=
  (r.x ≤ p.x ∧ (p.x : Int) < r.x + r.width) ∧ r.y ≤ p.y ∧ (p.y : Int) < r.y + r.height

instance (r : Rect) (p : Texel) : Decidable (r.Reaches p) :=
  inferInstanceAs (Decidable (_ ∧ _))

/-- **The visible texels of a rectangle.** -/
theorem mem_visible {r : Rect} {t : Texture} {p : Texel} :
    p ∈ (r.visible t.size).texels ↔ t.contains p = true ∧ r.Reaches p := by
  rw [Window.mem_texels, Texture.contains_iff, Rect.Reaches]
  simp only [Rect.visible]
  omega

/-- The coordinate is the one at the scaled place, or the nearest the source has. -/
theorem sourceCoord_eq {offset origin extent span : Int} {size : Nat} (hs : 0 < span)
    (h0 : 0 < size) :
    (sourceCoord offset origin extent span size : Int) =
      max 0 (min (origin + Int.fdiv (offset * extent) span) (size - 1)) := by
  rw [sourceCoord, Int.fdiv_eq_ediv_of_nonneg _ hs.le]
  omega

/-- Not scaled, offsets count up from the origin. -/
theorem sourceCoord_unscaled {offset origin extent : Int} {size : Nat} (he : extent ≠ 0) :
    sourceCoord offset origin extent extent size =
      (max 0 (min (origin + offset) (size - 1))).toNat := by
  rw [sourceCoord, Int.mul_ediv_cancel _ he]

theorem sourceCoord_lt {offset origin extent span : Int} {size : Nat} (h0 : 0 < size) :
    sourceCoord offset origin extent span size < size := by
  rw [sourceCoord]
  omega

/-- The source has the texel that is taken. -/
theorem contains_sourceTexel {src : Texture} (hc : 0 < src.size.cols) (hr : 0 < src.size.rows)
    (srcRect dstRect : Rect) (p : Texel) :
    src.contains (sourceTexel src.size srcRect dstRect p) = true := by
  rw [Texture.contains_iff]
  exact ⟨sourceCoord_lt hc, sourceCoord_lt hr⟩

/-! ## Resampling -/

variable {op : PixelOp} {src dst : Texture} {srcRect dstRect : Rect}

/-- What resampling makes of each pixel. -/
def samplingRule (op : PixelOp) (src : Texture) (srcRect dstRect : Rect) (p : Texel)
    (old : List UInt8) : List UInt8 :=
  (op.write? old (src.pixel (sourceTexel src.size srcRect dstRect p))).getD old

theorem resample_eq_paint : resample op src dst srcRect dstRect =
    dst.paint (dstRect.visible dst.size) (samplingRule op src srcRect dstRect) := rfl

theorem visible_subset : ∀ q ∈ (dstRect.visible dst.size).texels, dst.contains q = true :=
  fun _ hq => (mem_visible.mp hq).1

/-- There is a pixel to take, and it has four bytes. -/
theorem length_sourcePixel (hop : PixelOp.between? src.format dst.format = some op)
    (hc : 0 < src.size.cols) (hr : 0 < src.size.rows) (srcRect dstRect : Rect) (p : Texel) :
    (src.pixel (sourceTexel src.size srcRect dstRect p)).length = 4 := by
  rw [Texture.length_pixel (contains_sourceTexel hc hr srcRect dstRect p)]
  exact (PixelOp.bytesPerPixel_of_between? hop).1

theorem samplingRule_eq (hop : PixelOp.between? src.format dst.format = some op)
    (hc : 0 < src.size.cols) (hr : 0 < src.size.rows) {p : Texel} {old : List UInt8}
    (ho : old.length = dst.bytesPerPixel) :
    samplingRule op src srcRect dstRect p old =
      op.result (src.pixel (sourceTexel src.size srcRect dstRect p)) := by
  have hd : dst.bytesPerPixel = 4 := (PixelOp.bytesPerPixel_of_between? hop).2
  have hn := length_sourcePixel hop hc hr srcRect dstRect p
  rw [samplingRule, PixelOp.write?_eq op (ho.trans hd) hn, Option.getD_some]

theorem keepsLength_samplingRule (hop : PixelOp.between? src.format dst.format = some op)
    (hc : 0 < src.size.cols) (hr : 0 < src.size.rows) :
    dst.KeepsLength (samplingRule op src srcRect dstRect) := by
  intro p old ho
  have hn := length_sourcePixel hop hc hr srcRect dstRect p
  rw [samplingRule_eq hop hc hr ho, PixelOp.length_result op hn]
  exact (PixelOp.bytesPerPixel_of_between? hop).2.symm

/-- **What resampling does to a pixel.** -/
theorem pixel_resample (hop : PixelOp.between? src.format dst.format = some op)
    (hc : 0 < src.size.cols) (hr : 0 < src.size.rows) {p : Texel} (hp : dst.contains p = true) :
    (resample op src dst srcRect dstRect).pixel p =
      if dstRect.Reaches p then op.result (src.pixel (sourceTexel src.size srcRect dstRect p))
      else dst.pixel p := by
  rw [resample_eq_paint,
    Texture.pixel_paint (keepsLength_samplingRule hop hc hr) visible_subset hp]
  have hmem : p ∈ (dstRect.visible dst.size).texels ↔ dstRect.Reaches p := by
    rw [mem_visible]; exact ⟨And.right, And.intro hp⟩
  simp only [hmem]
  by_cases h : dstRect.Reaches p
  · rw [if_pos h, if_pos h, samplingRule_eq hop hc hr (Texture.length_pixel hp)]
  · rw [if_neg h, if_neg h]

end BlitDevice
