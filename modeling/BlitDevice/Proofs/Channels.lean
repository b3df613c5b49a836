import BlitDevice.Proofs.Layers
import BlitDevice.Proofs.Surfaces
import BlitDevice.Texture.Picture

/-!
# The order of channels

Three formats have four bytes of colour, in two orders, and one of them has padding for alpha.
Images, blits, luma planes and clears each know the orders for themselves.

* `PixelFormat.HasColor`, `colorOf` — the three formats, and the colour a pixel of them stands for.
* `Texture.toImage_eq`, `pixel_blit`, `convertToLuma_congr`, `Session.clear_eq_ok` — each goes by
  that colour.
* `channels_coherent` — all of it, and what follows for one after another.
-/

set_option autoImplicit false

namespace BlitDevice

/-! ## Colours of pixels -/

/-- The format has four bytes of colour. -/
def PixelFormat.HasColor (f : PixelFormat) : Prop := f = .rgba ∨ f = .bgra ∨ f = .bgrx

instance (f : PixelFormat) : Decidable f.HasColor := inferInstanceAs (Decidable (_ ∨ _ ∨ _))

/-- Red, green, blue and alpha of a pixel; padding stands for no transparency. -/
def colorOf : PixelFormat → List UInt8 → List UInt8
  | .bgra, [b, g, r, a] => [r, g, b, a]
  | .bgrx, [b, g, r, _] => [r, g, b, 0xff]
  | _, px => px

theorem colorOf_rgba (px : List UInt8) : colorOf .rgba px = px := rfl

variable {f : PixelFormat} {px : List UInt8}

theorem PixelFormat.HasColor.bytesPerPixel_eq (h : f.HasColor) : f.bytesPerPixel = 4 := by
  rcases h with rfl | rfl | rfl <;> rfl

theorem exists_bytes (h : px.length = 4) : ∃ a b c d, px = [a, b, c, d] := by
  match px, h with
  | [a, b, c, d], _ => exact ⟨a, b, c, d, rfl⟩

/-- The last byte has no say in red, green and blue. -/
theorem take_colorOf {px px' : List UInt8} (hpx : px.length = 4) (hpx' : px'.length = 4)
    (h : px.take 3 = px'.take 3) : (colorOf f px).take 3 = (colorOf f px').take 3 := by
  obtain ⟨a, b, c, d, rfl⟩ := exists_bytes hpx
  obtain ⟨a', b', c', d', rfl⟩ := exists_bytes hpx'
  simp only [List.take_succ_cons, List.take_zero, List.cons.injEq, and_true] at h
  obtain ⟨rfl, rfl, rfl⟩ := h
  cases f <;> rfl

/-- Images are made of colours. -/
theorem PixelFormat.HasColor.imageType?_eq (h : f.HasColor) :
    ∃ convert, f.imageType? = some (.rgba, convert) ∧
      ∀ px : List UInt8, px.length = 4 → convert px = colorOf f px := by
  rcases h with rfl | rfl | rfl
  all_goals
    refine ⟨_, rfl, fun px hpx => ?_⟩
    obtain ⟨a, b, c, d, rfl⟩ := exists_bytes hpx
    rfl

/-- Luma is read off red, green and blue. -/
theorem PixelFormat.HasColor.rgbOffsets?_eq (h : f.HasColor) :
    ∃ r g b, f.rgbOffsets? = some (r, g, b) ∧ ∀ px : List UInt8, px.length = 4 →
      [px.getD r 0, px.getD g 0, px.getD b 0] = (colorOf f px).take 3 := by
  rcases h with rfl | rfl | rfl
  all_goals
    refine ⟨_, _, _, rfl, fun px hpx => ?_⟩
    obtain ⟨a, b, c, d, rfl⟩ := exists_bytes hpx
    rfl

/-- What a blit does to a pixel gives its colour. -/
theorem PixelOp.result_eq_colorOf {op : PixelOp} (hop : PixelOp.between? f .rgba = some op)
    (hpx : px.length = 4) : op.result px = colorOf f px := by
  obtain ⟨a, b, c, d, rfl⟩ := exists_bytes hpx
  cases f <;> cases hop <;> rfl

/-- A colour as far as a format has room for it: padding takes no alpha. -/
def Rgba8.heldBy (c : Rgba8) (f : PixelFormat) : List UInt8 :=
  [c.r, c.g, c.b, if f = .bgrx then 0xff else c.a]

/-- The pixel a colour is encoded as stands for what there is room for. -/
theorem Rgba8.encode?_eq (h : f.HasColor) (c : Rgba8) :
    ∃ px, c.encode? f = some px ∧ px.length = 4 ∧ colorOf f px = c.heldBy f := by
  rcases h with rfl | rfl | rfl
  · exact ⟨_, rfl, rfl, rfl⟩
  · exact ⟨_, rfl, rfl, rfl⟩
  · exact ⟨_, rfl, rfl, rfl⟩

/-! ## Images -/

namespace Texture

variable {t : Texture} {p : Texel}

theorem length_pixel_of_hasColor (h : t.format.HasColor) (hp : t.contains p = true) :
    (t.pixel p).length = 4 := (length_pixel hp).trans h.bytesPerPixel_eq

theorem toList_convertPixels (t : Texture) (convert : List UInt8 → List UInt8) :
    (t.convertPixels convert).toList =
      (Window.covering t.size).texels.flatMap fun p => convert (t.pixel p) :=
  Window.toList_fold_appendList _ _

/-- **An image holds the colours**, row by row. -/
theorem toImage_eq (h : t.format.HasColor) :
    ∃ image, t.toImage = .ok image ∧ image.size = t.size ∧ image.color = .rgba ∧
      image.depth = .eight ∧
      image.samples.toList = (List.range t.size.rows).flatMap fun y =>
        (List.range t.size.cols).flatMap fun x => colorOf t.format (t.pixel ⟨x, y⟩) := by
  obtain ⟨convert, htype, hconvert⟩ := h.imageType?_eq
  refine ⟨⟨t.size, .rgba, .eight, t.convertPixels convert⟩, by rw [toImage, htype], rfl, rfl, rfl, ?_⟩
  have hcolors : (Window.covering t.size).texels.flatMap (fun p => convert (t.pixel p)) =
      (Window.covering t.size).texels.flatMap fun p => colorOf t.format (t.pixel p) := by
    refine List.flatMap_congr fun p hp => ?_
    exact hconvert _ (length_pixel_of_hasColor h (mem_covering.mp hp))
  rw [toList_convertPixels, hcolors, Window.texels_covering, List.flatMap_assoc]
  simp only [List.flatMap_map]

end Texture

/-! ## Blits -/

variable {src dst t : Texture} {log : Log}

/-- A blit to red, green, blue and alpha has an operation for its pixels, also where it copies all of
a texture as it stands. -/
theorem exists_op_of_blit {srcRect dstRect : Rect} (hdst : dst.format = .rgba)
    (h : blit src dst srcRect dstRect = .ok (t, log)) :
    ∃ op, PixelOp.between? src.format dst.format = some op := by
  unfold blit at h
  split at h
  · rename_i hw
    refine ⟨.keep, ?_⟩
    rw [hw.1, hdst]
    rfl
  · cases hop : PixelOp.between? src.format dst.format with
    | none =>
      rw [blitByPixel, hop] at h
      cases h
    | some op => exact ⟨op, rfl⟩

/-- **A blit to red, green, blue and alpha writes colours.** -/
theorem pixel_blit {srcRect dstRect : Rect} (hdst : dst.format = .rgba)
    (h : blit src dst srcRect dstRect = .ok (t, log)) {p : Texel} (hp : dst.contains p = true) :
    t.pixel p = if BlitReaches src dstRect p then
      colorOf src.format (src.pixel (sourceTexel src.size srcRect dstRect p)) else dst.pixel p := by
  obtain ⟨op, hop⟩ := exists_op_of_blit hdst h
  rw [(overlaid_blit h).pixel_eq p hp, blitLayer]
  by_cases hreach : BlitReaches src dstRect p
  · rw [if_pos hreach, if_pos hreach, Option.getD_some, PixelFormat.carry, hop]
    obtain ⟨_, ⟨hcols, hrows⟩, _⟩ := hreach
    have hlen := length_sourcePixel hop hcols hrows srcRect dstRect p
    rw [hdst] at hop
    exact PixelOp.result_eq_colorOf hop hlen
  · rw [if_neg hreach, if_neg hreach, Option.getD_none]

/-- All of a texture, if it goes onto one of its size, goes there in its colours. -/
theorem pixel_blit_covering (hsize : src.size = dst.size) (hdst : dst.format = .rgba)
    (h : blit src dst (.covering src.size) (.covering dst.size) = .ok (t, log)) {p : Texel}
    (hp : dst.contains p = true) : t.pixel p = colorOf src.format (src.pixel p) := by
  obtain ⟨hx, hy⟩ := Texture.contains_iff.mp hp
  rw [pixel_blit hdst h hp, if_pos (blitReaches_covering hsize hp), hsize,
    sourceTexel_covering hx hy]

/-! ## Luma planes -/

/-- **A luma plane depends on red, green and blue only**, in whatever order they are stored. -/
theorem convertToLuma_congr {src' : Texture} (hf : src.format.HasColor)
    (hf' : src'.format.HasColor) (hsize : src'.size = src.size)
    (h : ∀ p, src.contains p = true → (colorOf src'.format (src'.pixel p)).take 3 =
      (colorOf src.format (src.pixel p)).take 3) (dst : Texture) (color : Vec4 Float32) :
    convertToLuma src' dst color = convertToLuma src dst color := by
  obtain ⟨r, g, b, hoffsets, hrgb⟩ := hf.rgbOffsets?_eq
  obtain ⟨r', g', b', hoffsets', hrgb'⟩ := hf'.rgbOffsets?_eq
  unfold convertToLuma
  rw [hsize, hoffsets, hoffsets']
  by_cases hs : src.size ≠ dst.size
  · rw [if_pos hs, if_pos hs]
  · rw [if_neg hs, if_neg hs]
    split
    · rfl
    · refine congrArg Except.ok (Texture.paint_congr fun p hp old => ?_)
      simp only [Nat.mul_one]
      have hp' : src.contains p = true :=
        (Texture.contains_of_size (not_not.mp hs) p).trans (Texture.mem_covering.mp hp)
      have hp'' : src'.contains p = true := (Texture.contains_of_size hsize p).trans hp'
      have hpixels := hrgb' _ (Texture.length_pixel_of_hasColor hf' hp'')
      rw [h p hp', ← hrgb _ (Texture.length_pixel_of_hasColor hf hp')] at hpixels
      simp only [List.cons.injEq, and_true] at hpixels
      rw [hpixels.1, hpixels.2.1, hpixels.2.2]

/-- The luma plane of a copy without padding is that of the original. -/
theorem convertToLuma_blit (hsrc : src.format = .bgrx) (hdst : dst.format = .rgba)
    (hsize : src.size = dst.size) :
    ∃ t log, blit src dst (.covering src.size) (.covering dst.size) = .ok (t, log) ∧
      ∀ plane color, convertToLuma t plane color = convertToLuma src plane color := by
  have hw : ¬ IsWholeCopy src dst (.covering src.size) (.covering dst.size) := by
    rintro ⟨hformat, _⟩
    rw [hsrc, hdst] at hformat
    cases hformat
  have hop : PixelOp.between? src.format dst.format = some .fromBgrx := by
    rw [hsrc, hdst]
    rfl
  obtain ⟨t, log, h, _⟩ := blitByPixel_eq_ok hop (.covering src.size) (.covering dst.size)
  have hblit : blit src dst (.covering src.size) (.covering dst.size) = .ok (t, log) := by
    rw [blit, dif_neg hw, h]
  have hconfig := (repainted_blit hblit).config_eq
  have ht : t.format = .rgba := (Texture.format_of_config hconfig).trans hdst
  have hts : t.size = src.size := (Texture.size_of_config hconfig).trans hsize.symm
  refine ⟨t, log, hblit, convertToLuma_congr (.inr (.inr hsrc)) (.inl ht) hts fun p hp => ?_⟩
  have hp' : dst.contains p = true := (Texture.contains_of_size hsize.symm p).trans hp
  rw [pixel_blit_covering hsize hdst hblit hp', ht, colorOf_rgba]

/-! ## Clears -/

namespace Session

/-- **A clear gives every pixel the colour**, as far as there is room for it. -/
theorem clear_eq_ok {s : Session} {id : TextureId} {flags : ClearFlags} {color : Vec4 Float32}
    (depth : Float32) (stencil : UInt8)
    (htarget : s.context.bindings.renderTarget = some id) (hhas : s.memory.Has (.texture id))
    (hflags : flags.color = true) (hf : (s.memory.texture id).format.HasColor) :
    (s.step (.clear flags color depth stencil)).answer = .ok .done ∧
      ∀ p, (s.memory.texture id).contains p = true →
        colorOf (s.memory.texture id).format
            (((s.step (.clear flags color depth stencil)).session.memory.texture id).pixel p) =
          (Rgba8.ofFloats color.x color.y color.z color.w).heldBy (s.memory.texture id).format := by
  obtain ⟨px, hencode, hlen, hpx⟩ :=
    Rgba8.encode?_eq hf (Rgba8.ofFloats color.x color.y color.z color.w)
  have hclear : s.memory.clear id color =
      .ok (s.memory.setTexture id ((s.memory.texture id).fill px), []) := by
    simp only [Memory.clear, hencode]
  have hstep : s.step (.clear flags color depth stencil) =
      (s.commit [] (s.memory.clear id color)).unit := by
    change (s.clear flags color).unit = _
    rw [clear, htarget]
    simp only [hflags, if_true]
  rw [hstep, hclear]
  refine ⟨rfl, fun p hp => ?_⟩
  have hload : (s.memory.setTexture id ((s.memory.texture id).fill px)).texture id =
      (s.memory.texture id).fill px := Memory.load_store_self (f := .texture id) hhas
  change colorOf _ (Texture.pixel ((s.memory.setTexture id _).texture id) p) = _
  rw [hload, Texture.pixel_fill (hlen.trans hf.bytesPerPixel_eq.symm) hp, hpx]

end Session

/-! ## Together -/

/-- **The order of channels is one and the same everywhere.** Let the pixels of a texture have four
bytes of colour.

As an image it is its colours, row by row, and that is what is encoded. A blit of it to a texture of
red, green, blue and alpha that answers gives a pixel that is reached the colour of the pixel it is
taken from, and no other pixel anything.

Its luma plane is that of any texture of red, green, blue and alpha with its colours, so it is that
of a copy without padding, and whatever is in alpha or in the padding has no say in it.

After a clear each pixel has the colour that was asked for, as far as there is room for it. -/
theorem channels_coherent (src : Texture) (hsrc : src.format.HasColor) :
    (∃ image, src.toImage = .ok image ∧ image.size = src.size ∧ image.color = .rgba ∧
      image.depth = .eight ∧
      (image.samples.toList = (List.range src.size.rows).flatMap fun y =>
        (List.range src.size.cols).flatMap fun x => colorOf src.format (src.pixel ⟨x, y⟩)) ∧
      src.toPng = (Png.encode image).mapError .pngEncode) ∧
    (∀ dst srcRect dstRect t log, dst.format = .rgba →
      blit src dst srcRect dstRect = .ok (t, log) →
      ∀ p, dst.contains p = true → t.pixel p = if BlitReaches src dstRect p then
        colorOf src.format (src.pixel (sourceTexel src.size srcRect dstRect p))
        else dst.pixel p) ∧
    (∀ rgba : Texture, rgba.format = .rgba → rgba.size = src.size →
      (∀ p, src.contains p = true → rgba.pixel p = colorOf src.format (src.pixel p)) →
      ∀ plane color, convertToLuma src plane color = convertToLuma rgba plane color) ∧
    (∀ dst : Texture, src.format = .bgrx → dst.format = .rgba → src.size = dst.size →
      ∃ t log, blit src dst (.covering src.size) (.covering dst.size) = .ok (t, log) ∧
        ∀ plane color, convertToLuma t plane color = convertToLuma src plane color) ∧
    (∀ other : Texture, other.format = src.format → other.size = src.size →
      (∀ p, src.contains p = true → (other.pixel p).take 3 = (src.pixel p).take 3) →
      ∀ plane color, convertToLuma other plane color = convertToLuma src plane color) ∧
    ∀ (s : Session) id flags color depth stencil,
      s.context.bindings.renderTarget = some id → s.memory.Has (.texture id) →
      s.memory.texture id = src → flags.color = true →
      (s.step (.clear flags color depth stencil)).answer = .ok .done ∧
        ∀ p, src.contains p = true →
          colorOf src.format
              (((s.step (.clear flags color depth stencil)).session.memory.texture id).pixel p) =
            (Rgba8.ofFloats color.x color.y color.z color.w).heldBy src.format := by
  refine ⟨?_, ?_, ?_, ?_, ?_, ?_⟩
  · obtain ⟨image, himage, hsize, hcolor, hdepth, hsamples⟩ := Texture.toImage_eq hsrc
    refine ⟨image, himage, hsize, hcolor, hdepth, hsamples, ?_⟩
    rw [Texture.toPng, himage]
    dsimp only
    cases Png.encode image <;> rfl
  · intro dst srcRect dstRect t log hdst h p hp
    exact pixel_blit hdst h hp
  · intro rgba hrgba hsize hpixels plane color
    refine (convertToLuma_congr hsrc (.inl hrgba) hsize (fun p hp => ?_) plane color).symm
    rw [hrgba, colorOf_rgba, hpixels p hp]
  · intro dst hbgrx hdst hsize
    exact convertToLuma_blit hbgrx hdst hsize
  · intro other hformat hsize hpixels plane color
    have hother : other.format.HasColor := by rwa [hformat]
    refine convertToLuma_congr hsrc hother hsize (fun p hp => ?_) plane color
    have hp' : other.contains p = true := (Texture.contains_of_size hsize p).trans hp
    rw [hformat]
    exact take_colorOf (Texture.length_pixel_of_hasColor hother hp')
      (Texture.length_pixel_of_hasColor hsrc hp) (hpixels p hp)
  · rintro s id flags color depth stencil htarget hhas rfl hflags
    exact Session.clear_eq_ok depth stencil htarget hhas hflags hsrc

/-- The colours of `twoPixels`. -/
def twoColors : Texture :=
  .ofBytes { size := ⟨2, 1⟩, format := .rgba } #[0, 0, 255, 255, 0, 255, 0, 255] rfl

/-- The pixels of `twoPixels` over other padding. -/
def twoPadded : Texture := twoPixels.withBytes #[255, 0, 0, 200, 0, 255, 0, 100] rfl

theorem texel_of_twoPixels {p : Texel} (h : twoPixels.contains p = true) :
    p = ⟨0, 0⟩ ∨ p = ⟨1, 0⟩ := by
  obtain ⟨x, y⟩ := p
  obtain ⟨hx, hy⟩ := Texture.contains_iff.mp h
  have hx : x < 2 := hx
  have hy : y < 1 := hy
  simp only [Texel.mk.injEq]
  omega

/-- Two pixels with padding as an image, mirrored into a larger texture, as two luma planes, and
cleared. -/
theorem twoPixels_channels :
    (∃ image, twoPixels.toImage = .ok image ∧
      image.samples.toList = [0, 0, 255, 255, 0, 255, 0, 255]) ∧
    (∃ t log, blit twoPixels threeBlanks ⟨2, 0, -2, 1⟩ ⟨-1, 0, 4, 1⟩ = .ok (t, log) ∧
      t.pixel ⟨0, 0⟩ = [0, 255, 0, 255]) ∧
    (∀ plane color, convertToLuma twoPixels plane color = convertToLuma twoColors plane color) ∧
    (∃ t log, blit twoPixels twoColors ⟨0, 0, 2, 1⟩ ⟨0, 0, 2, 1⟩ = .ok (t, log) ∧
      ∀ plane color, convertToLuma t plane color = convertToLuma twoPixels plane color) ∧
    (∀ plane color, convertToLuma twoPadded plane color = convertToLuma twoPixels plane color) ∧
    ∀ color : Vec4 Float32, colorOf .bgrx
        ((((twoSizes.setRenderTarget (some ⟨0⟩)).session.step
          (.clear ⟨true, false, false⟩ color 0 0)).session.memory.texture ⟨0⟩).pixel ⟨1, 0⟩) =
      (Rgba8.ofFloats color.x color.y color.z color.w).heldBy .bgrx := by
  have hsrc : twoPixels.format.HasColor := by decide
  obtain ⟨⟨image, himage, _, _, _, hsamples, _⟩, hblit, hluma, hcopy, hpadding, hclear⟩ :=
    channels_coherent twoPixels hsrc
  refine ⟨⟨image, himage, hsamples.trans (by decide)⟩, ?_, ?_, hcopy twoColors rfl rfl rfl, ?_, ?_⟩
  · have hpixel := hblit threeBlanks ⟨2, 0, -2, 1⟩ ⟨-1, 0, 4, 1⟩ _ _ rfl rfl ⟨0, 0⟩ rfl
    exact ⟨_, _, rfl, hpixel.trans (by decide)⟩
  · refine hluma twoColors rfl rfl fun p hp => ?_
    rcases texel_of_twoPixels hp with rfl | rfl <;> decide
  · refine hpadding twoPadded rfl rfl fun p hp => ?_
    rcases texel_of_twoPixels hp with rfl | rfl <;> decide
  · intro color
    have hcleared := hclear (twoSizes.setRenderTarget (some ⟨0⟩)).session ⟨0⟩ ⟨true, false, false⟩
      color 0 0 rfl (by decide) rfl rfl
    exact hcleared.2 ⟨1, 0⟩ rfl

end BlitDevice
