import BlitDevice.Proofs.Channels
import BlitDevice.Proofs.Layers

/-!
# What a luma plane holds

* `byteOf`, `toUInt8_clampByte` — a number as a byte: cut off inside `0 … 255`, moved there from
  outside, and zero for what is no number.
* `convertToLuma_of_size`, `convertToLuma_of_format`, `convertToLuma_of_colors` — what is checked
  first, second and last.
* `Canvas.run_luma_refused` — nothing is written where a check fails.
* `luma_by_formula` — what is refused, and what every pixel is otherwise.
-/

set_option autoImplicit false

namespace BlitDevice

/-! ## Numbers as bytes -/

open Float.Model in
/-- What is no number is neither less nor greater than another. -/
theorem not_lt_of_isNaN {v : Float} (h : v.isNaN = true) (w : Float) : ¬ v < w ∧ ¬ w < v := by
  have hv : v.toModel.unpack = .notANumber := by
    change v.toModel.unpack.isNaN = true at h
    cases hv : v.toModel.unpack with
    | notANumber => rfl
    | _ => rw [hv] at h; cases h
  have hcompare : ∀ u : UnpackedFloat, UnpackedFloat.compare .notANumber u = none ∧
      UnpackedFloat.compare u .notANumber = none := by
    intro u
    cases u <;> exact ⟨rfl, rfl⟩
  constructor
  · intro hlt
    have hlt' : (v.toModel.unpack.compare w.toModel.unpack == some .lt) = true :=
      of_decide_eq_true hlt
    rw [hv, (hcompare _).1] at hlt'
    cases hlt'
  · intro hlt
    have hlt' : (w.toModel.unpack.compare v.toModel.unpack == some .lt) = true :=
      of_decide_eq_true hlt
    rw [hv, (hcompare _).2] at hlt'
    cases hlt'

/-- What is no number is the byte 0. -/
theorem toUInt8_of_isNaN {v : Float} (h : v.isNaN = true) : v.toUInt8 = 0 := by
  change v.toModel.unpack.isNaN = true at h
  change v.toModel.unpack.toUInt8 = 0
  cases hv : v.toModel.unpack with
  | notANumber => decide
  | _ => rw [hv] at h; cases h

/-- A number as a byte: cut off inside `0 … 255`, moved there from outside. -/
def byteOf (v : Float) : UInt8 :=
  if v.isNaN then 0 else if v < 0.0 then 0 else if 255.0 < v then 255 else v.toUInt8

/-- Moved into `0 … 255` first and cut off then, what is no number comes out as zero. -/
theorem toUInt8_clampByte (v : Float) : (clampByte v).toUInt8 = byteOf v := by
  unfold byteOf clampByte
  by_cases hnan : v.isNaN = true
  · rw [if_pos hnan, if_neg (not_lt_of_isNaN hnan _).1, if_neg (not_lt_of_isNaN hnan _).2,
      toUInt8_of_isNaN hnan]
  · rw [if_neg hnan]
    by_cases hlow : v < 0.0
    · rw [if_pos hlow, if_pos hlow]
      decide
    · rw [if_neg hlow, if_neg hlow]
      by_cases hhigh : 255.0 < v
      · rw [if_pos hhigh, if_pos hhigh]
        decide
      · rw [if_neg hhigh, if_neg hhigh]

/-! ## What is checked -/

variable {src dst t : Texture} {color : Vec4 Float32}

theorem convertToLuma_of_size (color : Vec4 Float32) (hsize : src.size ≠ dst.size) :
    convertToLuma src dst color = .error (.resolutionMismatch src.size dst.size) :=
  if_pos hsize

theorem convertToLuma_of_format (color : Vec4 Float32) (hsize : src.size = dst.size)
    (hformat : dst.format ≠ .r8) :
    convertToLuma src dst color = .error (.unsupportedLumaFormat dst.format) := by
  have hluma : dst.format.isLuma = false := by
    cases hf : dst.format with
    | r8 => exact absurd hf hformat
    | _ => rfl
  rw [convertToLuma, if_neg (not_not.mpr hsize), hluma]
  rfl

theorem PixelFormat.rgbOffsets?_of_not_hasColor {f : PixelFormat} (h : ¬ f.HasColor) :
    f.rgbOffsets? = none := by
  cases f with
  | rgba => exact absurd (by decide) h
  | bgra => exact absurd (by decide) h
  | bgrx => exact absurd (by decide) h
  | _ => rfl

theorem convertToLuma_of_colors (color : Vec4 Float32) (hsize : src.size = dst.size)
    (hformat : dst.format = .r8) (hcolor : ¬ src.format.HasColor) :
    convertToLuma src dst color = .error (.unsupportedFormatPair src.format dst.format) := by
  rw [convertToLuma, if_neg (not_not.mpr hsize), hformat,
    PixelFormat.rgbOffsets?_of_not_hasColor hcolor]
  rfl

/-- Colours go onto a plane of their size. -/
theorem convertToLuma_eq_ok (color : Vec4 Float32) (hsize : src.size = dst.size)
    (hformat : dst.format = .r8) (hcolor : src.format.HasColor) :
    ∃ t, convertToLuma src dst color = .ok t := by
  obtain ⟨r, g, b, hrgb, _⟩ := hcolor.rgbOffsets?_eq
  rw [convertToLuma, if_neg (not_not.mpr hsize), hformat, hrgb]
  exact ⟨_, rfl⟩

/-- Nothing is written where a check fails. -/
theorem Canvas.run_luma_refused {e : Error} (h : convertToLuma src dst color = .error e) :
    (Canvas.luma src color).run { texture := dst } = .ok (.error e, { texture := dst }) := by
  rw [Canvas.run_luma, h]
  rfl

/-- Where the checks pass, the plane is written without leaving either texture. -/
theorem Canvas.run_luma_answered (h : convertToLuma src dst color = .ok t) :
    (Canvas.luma src color).run { texture := dst } =
      .ok (.ok (), { texture := t, writes := Canvas.allOffsets dst }) := by
  rw [Canvas.run_luma, h, Canvas.lumaWrites, h]
  rfl

/-! ## What is written -/

/-- The luma of a colour in double precision, from left to right: each channel as a part of one,
times its weight, then the offset; then as a part of 255, and a little more. -/
def lumaOf (color : Vec4 Float32) (r g b : UInt8) : Float :=
  (((Float.ofNat r.toNat / 255.0 * (Binary32.ofFloat color.x).widen +
          Float.ofNat g.toNat / 255.0 * (Binary32.ofFloat color.y).widen) +
        Float.ofNat b.toNat / 255.0 * (Binary32.ofFloat color.z).widen) +
      (Binary32.ofFloat color.w).widen) * 255.0 + 1.0e-5

theorem lumaByte_eq (r g b : UInt8) : lumaByte color r g b = byteOf (lumaOf color r g b) :=
  toUInt8_clampByte _

/-- The bytes of a pixel that stands for a colour, in the order of its format. -/
theorem PixelFormat.HasColor.exists_channels {f : PixelFormat} {px : List UInt8} (h : f.HasColor)
    (hpx : px.length = 4) : ∃ r g b a, px = (if f = .rgba then [r, g, b, a] else [b, g, r, a]) ∧
      f.rgbOffsets?.map (fun o => (px.getD o.1 0, px.getD o.2.1 0, px.getD o.2.2 0)) =
        some (r, g, b) := by
  obtain ⟨v₀, v₁, v₂, v₃, rfl⟩ := exists_bytes hpx
  rcases h with rfl | rfl | rfl
  · exact ⟨v₀, v₁, v₂, v₃, rfl, rfl⟩
  · exact ⟨v₂, v₁, v₀, v₃, rfl, rfl⟩
  · exact ⟨v₂, v₁, v₀, v₃, rfl, rfl⟩

/-- What a pixel of the plane is made of. -/
theorem pixel_convertToLuma (hsize : src.size = dst.size) (hcolor : src.format.HasColor)
    (h : convertToLuma src dst color = .ok t) {p : Texel} (hp : dst.contains p = true) :
    ∃ r g b a, src.pixel p = (if src.format = .rgba then [r, g, b, a] else [b, g, r, a]) ∧
      t.pixel p = [byteOf (lumaOf color r g b)] := by
  have hsource : src.contains p = true := by rwa [Texture.contains, hsize]
  obtain ⟨r, g, b, a, hpx, hchannels⟩ :=
    hcolor.exists_channels (Texture.length_pixel_of_hasColor hcolor hsource)
  refine ⟨r, g, b, a, hpx, ?_⟩
  obtain ⟨⟨i, j, k⟩, hrgb, hijk⟩ := Option.map_eq_some_iff.mp hchannels
  simp only [Prod.mk.injEq] at hijk
  obtain ⟨hr, hg, hb⟩ := hijk
  rw [(overlaid_convertToLuma h).pixel_eq p hp, lumaLayer, hrgb, Option.map_some,
    Option.getD_some]
  dsimp only
  rw [hr, hg, hb, lumaByte_eq]

/-- **A luma plane is its formula, pixel by pixel.** Sizes are compared first, then the format of
the plane is looked at, then that of the colours; where one of these is wrong, that is told and
nothing is written. Otherwise the plane is computed, without leaving either texture, however many
levels each of them has: every pixel is the byte of the formula on the red, green and blue of its
own colour, and nothing behind level 0 changes. -/
theorem luma_by_formula (src dst : Texture) (color : Vec4 Float32) :
    (src.size ≠ dst.size →
      convertToLuma src dst color = .error (.resolutionMismatch src.size dst.size) ∧
      (Canvas.luma src color).run { texture := dst } =
        .ok (.error (.resolutionMismatch src.size dst.size), { texture := dst })) ∧
    (src.size = dst.size → dst.format ≠ .r8 →
      convertToLuma src dst color = .error (.unsupportedLumaFormat dst.format) ∧
      (Canvas.luma src color).run { texture := dst } =
        .ok (.error (.unsupportedLumaFormat dst.format), { texture := dst })) ∧
    (src.size = dst.size → dst.format = .r8 →
      ¬ (src.format = .rgba ∨ src.format = .bgra ∨ src.format = .bgrx) →
      convertToLuma src dst color = .error (.unsupportedFormatPair src.format dst.format) ∧
      (Canvas.luma src color).run { texture := dst } =
        .ok (.error (.unsupportedFormatPair src.format dst.format), { texture := dst })) ∧
    (src.size = dst.size → dst.format = .r8 →
      src.format = .rgba ∨ src.format = .bgra ∨ src.format = .bgrx →
      ∃ t writes, convertToLuma src dst color = .ok t ∧
        (Canvas.luma src color).run { texture := dst } =
          .ok (.ok (), { texture := t, writes }) ∧
        t.config = dst.config ∧
        (∀ k, dst.level0Size ≤ k → t.bytes[k]? = dst.bytes[k]?) ∧
        ∀ p, dst.contains p = true → ∃ r g b a,
          src.pixel p = (if src.format = .rgba then [r, g, b, a] else [b, g, r, a]) ∧
          t.pixel p = [byteOf (lumaOf color r g b)]) := by
  refine ⟨?_, ?_, ?_, ?_⟩
  · intro hsize
    have h := convertToLuma_of_size color hsize
    exact ⟨h, Canvas.run_luma_refused h⟩
  · intro hsize hformat
    have h := convertToLuma_of_format color hsize hformat
    exact ⟨h, Canvas.run_luma_refused h⟩
  · intro hsize hformat hcolor
    have h := convertToLuma_of_colors color hsize hformat hcolor
    exact ⟨h, Canvas.run_luma_refused h⟩
  · intro hsize hformat hcolor
    obtain ⟨t, h⟩ := convertToLuma_eq_ok color hsize hformat hcolor
    have hover := overlaid_convertToLuma h
    exact ⟨t, Canvas.allOffsets dst, h, Canvas.run_luma_answered h, hover.repainted.config_eq,
      hover.repainted.rest_eq, fun p hp => pixel_convertToLuma hsize hcolor h hp⟩

/-- A dark plane of two pixels, and two more levels. -/
def darkPlane : Texture :=
  .ofBytes { size := ⟨2, 1⟩, format := .r8, levels := 3 } #[1, 2, 3, 4, 5, 6] rfl

/-- How green blue and green are; blue and green do not go onto three pixels. -/
theorem luma_of_twoPixels :
    (∃ t, convertToLuma twoPixels darkPlane ⟨0, 1, 0, 0⟩ = .ok t ∧
      t.pixel ⟨0, 0⟩ = [0] ∧ t.pixel ⟨1, 0⟩ = [255] ∧ t.bytes[2]? = some 3) ∧
    convertToLuma twoPixels threeBlanks ⟨0, 1, 0, 0⟩ =
      .error (.resolutionMismatch ⟨2, 1⟩ ⟨3, 1⟩) := by
  constructor
  · obtain ⟨t, _, h, _, _, hrest, hpixel⟩ :=
      (luma_by_formula twoPixels darkPlane ⟨0, 1, 0, 0⟩).2.2.2 rfl rfl (by decide)
    obtain ⟨r, g, b, a, hpx, hblue⟩ := hpixel ⟨0, 0⟩ rfl
    obtain ⟨r', g', b', a', hpx', hgreen⟩ := hpixel ⟨1, 0⟩ rfl
    have hpx : [255, 0, 0, 7] = [b, g, r, a] := Eq.trans (by decide) hpx
    have hpx' : [0, 255, 0, 9] = [b', g', r', a'] := Eq.trans (by decide) hpx'
    cases hpx
    cases hpx'
    exact ⟨t, h, hblue.trans (by decide +kernel), hgreen.trans (by decide +kernel),
      (hrest 2 (by decide)).trans (by decide)⟩
  · exact ((luma_by_formula twoPixels threeBlanks ⟨0, 1, 0, 0⟩).1 (by decide)).1

end BlitDevice
