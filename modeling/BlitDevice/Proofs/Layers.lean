import BlitDevice.Proofs.Repaint

/-!
# What is painted over a texture

Whatever writes to a texture gives some of its pixels new bytes, and which bytes these are does not
depend on the bytes that were there.

* `Layer`, `Texture.Overlaid` — new bytes for some pixels, and the texture that has them.
* `Texture.Overlaid.eq` — there is one such texture; `Texture.Overlaid.again` — painting the layer
  once more leaves it as it is; `Texture.Overlaid.swap` — layers that have no pixel in common can be
  painted in either order.
* `overlaid_blit`, `overlaid_convertToLuma`, `Texture.overlaid_fill` — what each engine paints.
* `blit_answers`, `convertToLuma_answers` — whether an engine answers depends on the size and the
  format of the texture it writes to, and on none of its bytes.
-/

set_option autoImplicit false

namespace BlitDevice

/-- New bytes for some pixels. -/
abbrev Layer := Texel → Option (List UInt8)

namespace Texture

variable {t u v w w' : Texture} {layer upper : Layer}

/-- Repainted textures with the same pixels are the same. -/
theorem Repainted.ext (hu : t.Repainted u) (hv : t.Repainted v)
    (h : ∀ p, t.contains p = true → u.pixel p = v.pixel p) : u = v := by
  have hconfig : u.config = v.config := hu.config_eq.trans hv.config_eq.symm
  have hlevel0 : u.level0 = v.level0 := by
    refine level0_eq_of_pixels (size_of_config hconfig) (format_of_config hconfig) fun p hp => ?_
    exact h p ((contains_of_config hu.config_eq p).symm.trans hp)
  refine eq_of_level0 hconfig hlevel0 fun i hi => ?_
  have hi' : t.level0Size ≤ i := by rwa [← level0Size_of_config hu.config_eq]
  rw [hu.rest_eq i hi', hv.rest_eq i hi']

/-- The second texture is the first with a layer painted over it. -/
structure Overlaid (t : Texture) (layer : Layer) (u : Texture) : Prop where
  repainted : t.Repainted u
  pixel_eq : ∀ p, t.contains p = true → u.pixel p = (layer p).getD (t.pixel p)

/-- A layer over a texture makes one texture. -/
theorem Overlaid.eq (hu : t.Overlaid layer u) (hv : t.Overlaid layer v) : u = v := by
  refine hu.repainted.ext hv.repainted fun p hp => ?_
  rw [hu.pixel_eq p hp, hv.pixel_eq p hp]

/-- **Painted once more, a layer changes nothing.** -/
theorem Overlaid.again (h : t.Overlaid layer u) : u.Overlaid layer u := by
  refine ⟨.refl u, fun p hp => ?_⟩
  have hp' : t.contains p = true := (contains_of_config h.repainted.config_eq p).symm.trans hp
  rw [h.pixel_eq p hp']
  cases layer p <;> rfl

/-- Two layers, one over the other. -/
theorem Overlaid.pixel_trans (hu : t.Overlaid layer u) (hw : u.Overlaid upper w) {p : Texel}
    (hp : t.contains p = true) : w.pixel p = (upper p).getD ((layer p).getD (t.pixel p)) := by
  have hp' : u.contains p = true := (contains_of_config hu.repainted.config_eq p).trans hp
  rw [hw.pixel_eq p hp', hu.pixel_eq p hp]

/-- **Layers without a common pixel can be painted in either order.** -/
theorem Overlaid.swap (hdisjoint : ∀ p, layer p = none ∨ upper p = none)
    (hu : t.Overlaid layer u) (hw : u.Overlaid upper w) (hv : t.Overlaid upper v)
    (hw' : v.Overlaid layer w') : w = w' := by
  refine (hu.repainted.trans hw.repainted).ext (hv.repainted.trans hw'.repainted) fun p hp => ?_
  rw [hu.pixel_trans hw hp, hv.pixel_trans hw' hp]
  rcases hdisjoint p with h | h
  · simp only [h, Option.getD_none]
  · simp only [h, Option.getD_none]

/-! ## Fills -/

/-- A fill paints every pixel. -/
theorem overlaid_fill {px : List UInt8} (hpx : px.length = t.bytesPerPixel) :
    t.Overlaid (fun _ => some px) (t.fill px) :=
  ⟨repainted_fill t px, fun _ hp => pixel_fill hpx hp⟩

end Texture

/-! ## Blits -/

/-- What a pixel becomes on its way from one format to another. Between formats without an
operation, pixels are copied as they stand or not at all. -/
def PixelFormat.carry (src dst : PixelFormat) (px : List UInt8) : List UInt8 :=
  match PixelOp.between? src dst with
  | some op => op.result px
  | none => px

/-- What a blit paints over a texture of a format. -/
def blitLayer (src : Texture) (format : PixelFormat) (srcRect dstRect : Rect) : Layer := fun p =>
  if BlitReaches src dstRect p then
    some (src.format.carry format (src.pixel (sourceTexel src.size srcRect dstRect p)))
  else none

theorem blitLayer_eq_none {src : Texture} {format : PixelFormat} {srcRect dstRect : Rect}
    {p : Texel} (h : ¬ dstRect.Reaches p) : blitLayer src format srcRect dstRect p = none := by
  rw [blitLayer, if_neg fun hreach => h hreach.2.2]

variable {src dst t : Texture} {log : Log} {srcRect dstRect : Rect}

/-- A format goes to itself unchanged. -/
theorem carry_self (f : PixelFormat) (px : List UInt8) : f.carry f px = px := by
  unfold PixelFormat.carry
  cases hop : PixelOp.between? f f with
  | none => rfl
  | some op =>
    rw [PixelOp.eq_keep_of_between? hop]
    rfl

/-- **What a blit paints.** It is the same layer whether the blit copies all of a texture as it
stands or goes pixel by pixel. -/
theorem overlaid_blit (h : blit src dst srcRect dstRect = .ok (t, log)) :
    dst.Overlaid (blitLayer src dst.format srcRect dstRect) t := by
  refine ⟨repainted_blit h, fun p hp => ?_⟩
  unfold blitLayer
  by_cases hw : IsWholeCopy src dst srcRect dstRect
  · rw [blit, dif_pos hw] at h
    cases h
    obtain ⟨hformat, hsize, rfl, rfl⟩ := hw
    obtain ⟨hx, hy⟩ := Texture.contains_iff.mp hp
    have hcopied : src.format.carry dst.format (src.pixel (sourceTexel src.size
        (.covering src.size) (.covering dst.size) p)) = src.pixel p := by
      rw [hformat, carry_self, hsize, sourceTexel_covering hx hy]
    rw [if_pos (blitReaches_covering hsize hp), hcopied, Option.getD_some]
    exact Texture.pixel_eq_of_level0 hsize.symm hformat.symm Texture.level0_withLevel0 hp
  · rw [blit, dif_neg hw] at h
    cases hop : PixelOp.between? src.format dst.format with
    | none =>
      rw [blitByPixel, hop] at h
      cases h
    | some op =>
      rw [pixel_blitByPixel hop h hp, PixelFormat.carry, hop]
      by_cases hreach : BlitReaches src dstRect p
      · rw [if_pos hreach, if_pos hreach, Option.getD_some]
      · rw [if_neg hreach, if_neg hreach, Option.getD_none]

/-- Whether a blit answers, and what it tells, does not depend on a byte of the texture it writes
to. -/
theorem blit_answers {dst' : Texture} (hsize : dst'.size = dst.size)
    (hformat : dst'.format = dst.format) :
    (blit src dst' srcRect dstRect).map Prod.snd = (blit src dst srcRect dstRect).map Prod.snd := by
  have hwhole : IsWholeCopy src dst' srcRect dstRect ↔ IsWholeCopy src dst srcRect dstRect := by
    unfold IsWholeCopy
    rw [hsize, hformat]
  by_cases hw : IsWholeCopy src dst srcRect dstRect
  · rw [blit, blit, dif_pos hw, dif_pos (hwhole.mpr hw)]
    rfl
  · rw [blit, blit, dif_neg hw, dif_neg fun h => hw (hwhole.mp h), blitByPixel, blitByPixel,
      hformat]
    cases PixelOp.between? src.format dst.format with
    | none => rfl
    | some op =>
      dsimp only
      split <;> rfl

/-! ## Luma planes -/

/-- What a luma plane paints. -/
def lumaLayer (src : Texture) (color : Vec4 Float32) : Layer := fun p =>
  src.format.rgbOffsets?.map fun (r, g, b) =>
    [lumaByte color ((src.pixel p).getD r 0) ((src.pixel p).getD g 0) ((src.pixel p).getD b 0)]

/-- **What a luma plane paints**, which is every pixel. -/
theorem overlaid_convertToLuma {color : Vec4 Float32} (h : convertToLuma src dst color = .ok t) :
    dst.Overlaid (lumaLayer src color) t := by
  refine ⟨repainted_convertToLuma h, fun p hp => ?_⟩
  unfold convertToLuma at h
  split at h
  · cases h
  · split at h
    · cases h
    · rename_i hluma
      cases hrgb : src.format.rgbOffsets? with
      | none =>
        rw [hrgb] at h
        cases h
      | some rgb =>
        obtain ⟨r, g, b⟩ := rgb
        rw [hrgb] at h
        cases h
        have hone : dst.bytesPerPixel = 1 :=
          Canvas.bytesPerPixel_of_isLuma (by simpa using hluma)
        have hkeeps : dst.KeepsLength fun q _ =>
            [lumaByte color ((src.pixel ⟨q.x * 1, q.y * 1⟩).getD r 0)
              ((src.pixel ⟨q.x * 1, q.y * 1⟩).getD g 0)
              ((src.pixel ⟨q.x * 1, q.y * 1⟩).getD b 0)] := fun _ _ _ => hone.symm
        rw [convertPlane, Texture.pixel_paint hkeeps (fun _ => Texture.mem_covering.mp) hp,
          if_pos (Texture.mem_covering.mpr hp), lumaLayer, hrgb]
        simp only [Nat.mul_one, Option.map_some, Option.getD_some]

/-- Whether a luma plane is computed does not depend on a byte of the texture it is written to. -/
theorem convertToLuma_answers {α : Type} {dst' : Texture} {color : Vec4 Float32} (a : α)
    (hsize : dst'.size = dst.size) (hformat : dst'.format = dst.format) :
    (convertToLuma src dst' color).map (fun _ => a) =
      (convertToLuma src dst color).map fun _ => a := by
  unfold convertToLuma
  rw [hsize, hformat]
  split
  · rfl
  · split
    · rfl
    · split <;> rfl

end BlitDevice
