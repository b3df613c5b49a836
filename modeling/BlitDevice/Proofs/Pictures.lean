import BlitDevice.Proofs.Bare
import BlitDevice.Proofs.Channels
import BlitDevice.Proofs.Encoding
import BlitDevice.Proofs.Regions

/-!
# Pictures of textures

A texture can be written down as an image and read back. What is read back has its colours.

* `PixelFormat.HasPicture`, `PixelFormat.pictured?` — the formats that can be written down, and the
  colour a pixel has in a picture.
* `Png.Codec`, `Png.Codec.Inverts` — some way to write images down and read them back, and the
  images it gives back; `Png.Codec.own` is the one that is implemented here.
* `Texture.exists_image`, `Texture.ofImage_eq_ok` — from a texture to an image, and from an image to
  a texture.
* `Texture.IsPictureOf` — what is read back. There is one such texture, it is its own picture, and
  without padding it is what a blit leaves: `Texture.IsPictureOf.eq`, `Texture.IsPictureOf.self`,
  `Texture.IsPictureOf.blit_eq`.
* `own_pictures_read_back`, `pictures_round_trip` — out and in again, through the codec that is
  implemented here and through any that gives images back.
-/

set_option autoImplicit false

namespace BlitDevice

/-! ## Formats -/

namespace PixelFormat

/-- The format has a picture. -/
def HasPicture (f : PixelFormat) : Prop :=
  f = .rgba ∨ f = .bgra ∨ f = .bgrx ∨ f = .r8 ∨ f = .a8

instance (f : PixelFormat) : Decidable f.HasPicture :=
  inferInstanceAs (Decidable (_ ∨ _ ∨ _ ∨ _ ∨ _))

/-- Red, green, blue and alpha of a pixel in a picture. -/
def pictured? : PixelFormat → List UInt8 → Option (List UInt8)
  | .rgba, [r, g, b, a] => some [r, g, b, a]
  | .bgra, [b, g, r, a] => some [r, g, b, a]
  | .bgrx, [b, g, r, _] => some [r, g, b, 255]
  | .r8, [v] | .a8, [v] => some [v, v, v, 255]
  | _, _ => none

/-- On its way out a pixel becomes one of an image, and on its way back that becomes a colour. -/
structure Pictures (f : PixelFormat) (color : Png.ColorType)
    (convert expand : List UInt8 → List UInt8) : Prop where
  imageType?_eq : f.imageType? = some (color, convert)
  toRgba?_eq : color.toRgba? = some expand
  color_eq : color = .rgba ∨ color = .gray
  length_convert : ∀ px : List UInt8, px.length = f.bytesPerPixel →
    (convert px).length = color.channels
  pictured?_eq : ∀ px : List UInt8, px.length = f.bytesPerPixel →
    f.pictured? px = some (expand (convert px))

/-- A pixel of four bytes comes back with its colours in order. -/
theorem pictures_of_four {f : PixelFormat} {convert : List UInt8 → List UInt8}
    (hbytes : f.bytesPerPixel = 4) (htype : f.imageType? = some (.rgba, convert))
    (hpictured : ∀ a b c d, f.pictured? [a, b, c, d] = some (convert [a, b, c, d]))
    (hlength : ∀ a b c d, (convert [a, b, c, d]).length = 4) :
    ∃ expand, f.Pictures .rgba convert expand := by
  refine ⟨_, htype, rfl, .inl rfl, fun px hpx => ?_, fun px hpx => ?_⟩
  · obtain ⟨a, b, c, d, rfl⟩ := exists_bytes (hpx.trans hbytes)
    exact hlength a b c d
  · obtain ⟨a, b, c, d, rfl⟩ := exists_bytes (hpx.trans hbytes)
    obtain ⟨a', b', c', d', heq⟩ := exists_bytes (hlength a b c d)
    rw [hpictured, heq]
    rfl

/-- A pixel of one byte comes back gray. -/
theorem pictures_of_one {f : PixelFormat} (hbytes : f.bytesPerPixel = 1)
    (htype : f.imageType? = some (.gray, id))
    (hpictured : ∀ v, f.pictured? [v] = some [v, v, v, 255]) :
    ∃ expand, f.Pictures .gray id expand := by
  refine ⟨_, htype, rfl, .inr rfl, fun px hpx => hpx.trans hbytes, fun px hpx => ?_⟩
  obtain ⟨v, rfl⟩ := List.length_eq_one_iff.mp (hpx.trans hbytes)
  rw [hpictured]
  rfl

theorem HasPicture.exists_pictures {f : PixelFormat} (h : f.HasPicture) :
    ∃ color convert expand, f.Pictures color convert expand := by
  rcases h with rfl | rfl | rfl | rfl | rfl
  · exact ⟨_, _, pictures_of_four rfl rfl (fun _ _ _ _ => rfl) fun _ _ _ _ => rfl⟩
  · exact ⟨_, _, pictures_of_four rfl rfl (fun _ _ _ _ => rfl) fun _ _ _ _ => rfl⟩
  · exact ⟨_, _, pictures_of_four rfl rfl (fun _ _ _ _ => rfl) fun _ _ _ _ => rfl⟩
  · exact ⟨_, _, pictures_of_one rfl rfl fun _ => rfl⟩
  · exact ⟨_, _, pictures_of_one rfl rfl fun _ => rfl⟩

/-- Other formats have no image. -/
theorem imageType?_of_not_hasPicture {f : PixelFormat} (h : ¬ f.HasPicture) :
    f.imageType? = none := by
  cases f with
  | rgba => exact absurd (by decide) h
  | bgra => exact absurd (by decide) h
  | bgrx => exact absurd (by decide) h
  | r8 => exact absurd (by decide) h
  | a8 => exact absurd (by decide) h
  | _ => rfl

end PixelFormat

/-- A colour has four bytes. -/
theorem Png.ColorType.length_toRgba? {color : ColorType} {expand : List UInt8 → List UInt8}
    (h : color.toRgba? = some expand) (px : List UInt8) : (expand px).length = 4 := by
  cases color <;> cases h <;> rfl

/-! ## Codecs -/

namespace Png

/-- Some way to write images down and to read them back. -/
structure Codec where
  encode : Image → Except EncodeError (List UInt8)
  decode? : List UInt8 → Option Reading

namespace Codec

/-- The one that is implemented here. -/
def own : Codec := ⟨Png.encode, Png.decode?⟩

/-- The image can be written down, and what is read back is that image. -/
def Inverts (codec : Codec) (i : Image) : Prop :=
  ∃ stream, codec.encode i = .ok stream ∧ codec.decode? stream = some (.ok i)

/-- The codec implemented here gives plain images back, if their rows are not too wide. -/
theorem inverts_own {i : Image} (h : i.IsPlain) (hcols : i.size.cols ≤ 0x1000000) :
    own.Inverts i := by
  have hchannels : i.color.channels ≤ 4 := by
    cases i.color <;> decide
  exact decode?_encode h (Nat.mul_le_mul hchannels hcols)

/-- Of a size that is not too wide, every image of a texture is given back. -/
theorem inverts_own_of_size {s : Size} (hcols : s.cols ≤ 0x1000000) (i : Image) (h : i.IsPlain)
    (_ : i.color = .rgba ∨ i.color = .gray) (hsize : i.size = s) : own.Inverts i :=
  inverts_own h (hsize ▸ hcols)

end Codec

end Png

/-! ## Textures -/

/-- Both sides are such as a picture can have. -/
def Size.FitsPicture (s : Size) : Prop :=
  (0 < s.cols ∧ s.cols ≤ Png.Header.longestSide) ∧ 0 < s.rows ∧ s.rows ≤ Png.Header.longestSide

instance (s : Size) : Decidable s.FitsPicture := inferInstanceAs (Decidable (_ ∧ _))

/-- Four bytes for each pixel are less than 64 bits can count. -/
theorem Size.FitsPicture.bytes_lt {s : Size} (h : s.FitsPicture) : s.cols * s.rows * 4 < 2 ^ 64 := by
  obtain ⟨⟨_, hcols⟩, _, hrows⟩ := h
  calc s.cols * s.rows * 4
      ≤ Png.Header.longestSide * Png.Header.longestSide * 4 :=
        Nat.mul_le_mul_right 4 (Nat.mul_le_mul hcols hrows)
    _ < 2 ^ 64 := by decide

namespace Texture

variable {codec : Png.Codec} {t u : Texture} {name : String}

/-- Level 0 as a stream of a codec. -/
def toPngBy (codec : Png.Codec) (t : Texture) : Except Error (List UInt8) :=
  match t.toImage with
  | .error e => .error e
  | .ok image =>
    match codec.encode image with
    | .ok bytes => .ok bytes
    | .error cause => .error (.pngEncode cause)

/-- A texture with the colours of an image in a stream of a codec. -/
def ofPngBy? (codec : Png.Codec) (stream : List UInt8) (name : String) :
    Option (Except Error Texture) :=
  (codec.decode? stream).map fun picture => ofReading picture name

theorem toPngBy_own (t : Texture) : t.toPngBy .own = t.toPng := rfl

theorem ofPngBy?_own (stream : List UInt8) (name : String) :
    ofPngBy? .own stream name = ofPng? stream name := rfl

/-- The image of a texture is a plain one, and its pixels stand for the colours of the texture's. -/
theorem exists_image (h : t.format.HasPicture) (hsize : t.size.FitsPicture) :
    ∃ image expand, t.toImage = .ok image ∧ image.IsPlain ∧
      (image.color = .rgba ∨ image.color = .gray) ∧ image.size = t.size ∧
      image.color.toRgba? = some expand ∧
      ∀ p, t.contains p = true → t.format.pictured? (t.pixel p) =
        some (expand (image.pixel (t.size.cols * p.y + p.x))) := by
  obtain ⟨color, convert, expand, hf⟩ := h.exists_pictures
  have hcolor : color ≠ .indexed := by
    rcases hf.color_eq with rfl | rfl
    · decide
    · decide
  have hpieces : ∀ p ∈ (Window.covering t.size).texels,
      (convert (t.pixel p)).length = color.channels :=
    fun p hp => hf.length_convert _ (length_pixel (mem_covering.mp hp))
  have hsamples := t.toList_convertPixels convert
  refine ⟨⟨t.size, color, .eight, t.convertPixels convert⟩, expand, ?_,
    ⟨rfl, hcolor, hsize.1, hsize.2, ?_⟩, hf.color_eq, rfl, hf.toRgba?_eq, fun p hp => ?_⟩
  · rw [toImage, hf.imageType?_eq]
  · rw [← Array.length_toList, hsamples, Bytes.length_flatMap_pieces hpieces, Window.length_texels]
  · rw [hf.pictured?_eq _ (length_pixel hp), Png.Image.pixel,
      Bytes.slice_pieces hsamples hpieces (Window.getElem?_texels hp)]

/-- A texture of four bytes a pixel with sides that a picture can have is not too large. -/
theorem byteCount_rgba {size : Size} (h : size.FitsPicture) :
    byteCount .rgba size 1 = .ok (4 * size.cols * size.rows) := by
  have hbytes : 4 * size.cols * size.rows < 2 ^ 64 := by
    rw [Nat.mul_assoc, Nat.mul_comm]
    exact h.bytes_lt
  exact byteCount_of_fits rfl (Nat.le_sub_one_of_lt hbytes)

/-- A plain image becomes a texture of its colours. -/
theorem ofImage_eq_ok {image : Png.Image} {expand : List UInt8 → List UInt8} (h : image.IsPlain)
    (hexpand : image.color.toRgba? = some expand) (name : String) :
    ∃ u, ofImage image name = .ok u ∧ u.config = ⟨image.size, .rgba, 1, .static, name⟩ ∧
      ∀ p, u.contains p = true →
        u.pixel p = expand (image.pixel (image.size.cols * p.y + p.x)) := by
  obtain ⟨pixels, hpixels⟩ : ∃ pixels : Bytes, pixels =
      (List.range (image.size.cols * image.size.rows)).foldl
        (fun (b : Bytes) i => b.appendList (expand (image.pixel i))) #[] := ⟨_, rfl⟩
  have hlist : pixels.toList = (List.range (image.size.cols * image.size.rows)).flatMap
      fun i => expand (image.pixel i) := by
    rw [hpixels, Bytes.toList_foldl_appendList]
    rfl
  have hpieces : ∀ i ∈ List.range (image.size.cols * image.size.rows),
      (expand (image.pixel i)).length = 4 :=
    fun i _ => Png.ColorType.length_toRgba? hexpand _
  have hlength : pixels.size = 4 * image.size.cols * image.size.rows := by
    rw [← Array.length_toList, hlist, Bytes.length_flatMap_pieces hpieces, List.length_range,
      Nat.mul_comm, Nat.mul_assoc]
  have hcount : byteCount .rgba image.size 1 = .ok pixels.size := by
    rw [hlength]
    exact byteCount_rgba ⟨h.cols_bounds, h.rows_bounds⟩
  refine ⟨.ofBytes { size := image.size, format := .rgba, name } pixels hcount, ?_, rfl, ?_⟩
  · rw [ofImage, if_neg (not_not.mpr h.depth_eq), hexpand]
    dsimp only
    rw [← hpixels]
    exact (create_of_byteCount hcount _).trans (dif_pos rfl)
  · intro p hp
    have hnumber : image.size.cols * p.y + p.x < image.size.cols * image.size.rows :=
      number_lt hp
    have hperPixel : bytesPerPixel (.ofBytes { size := image.size, format := .rgba, name } pixels
        hcount) = 4 := PixelFormat.HasColor.bytesPerPixel_eq (.inl rfl)
    rw [pixel, offset, hperPixel]
    exact Bytes.slice_pieces hlist hpieces (List.getElem?_range hnumber)

/-- The picture of a texture: its colours under a name, with one level. -/
structure IsPictureOf (u t : Texture) (name : String) : Prop where
  config_eq : u.config = ⟨t.size, .rgba, 1, .static, name⟩
  pictured?_eq : ∀ p, t.contains p = true → t.format.pictured? (t.pixel p) = some (u.pixel p)

theorem IsPictureOf.size_eq (hu : u.IsPictureOf t name) : u.size = t.size :=
  congrArg TextureConfig.size hu.config_eq

theorem IsPictureOf.format_eq (hu : u.IsPictureOf t name) : u.format = .rgba :=
  congrArg TextureConfig.format hu.config_eq

theorem IsPictureOf.levels_eq (hu : u.IsPictureOf t name) : u.levels = 1 :=
  congrArg TextureConfig.levels hu.config_eq

/-- Textures of one level and one configuration with the same pixels are the same. -/
theorem eq_of_pixels (hconfig : t.config = u.config) (hlevels : t.levels = 1)
    (h : ∀ p, t.contains p = true → t.pixel p = u.pixel p) : t = u := by
  have hsize : t.bytes.size = t.level0Size := by
    rw [t.size_bytes, hlevels]
    exact Nat.mul_one _
  have hsize' : u.bytes.size = t.level0Size := (size_bytes_of_config hconfig).symm.trans hsize
  refine eq_of_level0 hconfig
    (level0_eq_of_pixels (size_of_config hconfig) (format_of_config hconfig) h) fun i hi => ?_
  rw [Array.getElem?_eq_none (by omega), Array.getElem?_eq_none (by omega)]

/-- A texture has one picture. -/
theorem IsPictureOf.eq {v : Texture} (hu : u.IsPictureOf t name) (hv : v.IsPictureOf t name) :
    u = v := by
  refine eq_of_pixels (hu.config_eq.trans hv.config_eq.symm) hu.levels_eq fun p hp => ?_
  have hp' : t.contains p = true := (contains_of_size hu.size_eq p).symm.trans hp
  exact Option.some.inj ((hu.pictured?_eq p hp').symm.trans (hv.pictured?_eq p hp'))

/-- **What was written down is read back as a picture**, by a codec that gives images back. -/
theorem exists_picture (h : t.format.HasPicture) (hsize : t.size.FitsPicture)
    (hcodec : ∀ i : Png.Image, i.IsPlain → i.color = .rgba ∨ i.color = .gray →
      i.size = t.size → codec.Inverts i) (name : String) :
    ∃ stream u, t.toPngBy codec = .ok stream ∧ ofPngBy? codec stream name = some (.ok u) ∧
      u.IsPictureOf t name := by
  obtain ⟨image, expand, himage, hplain, hcolor, hsizes, hexpand, hpixels⟩ := exists_image h hsize
  obtain ⟨stream, hencode, hdecode⟩ := hcodec image hplain hcolor hsizes
  obtain ⟨u, hu, hconfig, hcolors⟩ := ofImage_eq_ok hplain hexpand name
  refine ⟨stream, u, ?_, ?_, ?_, fun p hp => ?_⟩
  · simp only [toPngBy, himage, hencode]
  · rw [ofPngBy?, hdecode]
    exact congrArg some hu
  · rw [hconfig, hsizes]
  · have husize : u.size = t.size := (congrArg TextureConfig.size hconfig).trans hsizes
    have hp' : u.contains p = true := (contains_of_size husize p).trans hp
    rw [hpixels p hp, hcolors p hp', hsizes]

/-- A picture is its own picture. -/
theorem IsPictureOf.self (hu : u.IsPictureOf t name) : u.IsPictureOf u name := by
  refine ⟨by rw [hu.config_eq, hu.size_eq], fun p hp => ?_⟩
  obtain ⟨r, g, b, a, hpx⟩ := exists_bytes (length_pixel_of_hasColor (.inl hu.format_eq) hp)
  rw [hu.format_eq, hpx]
  rfl

/-- **Written down and read back once more, a picture is as it was.** -/
theorem IsPictureOf.again (hu : u.IsPictureOf t name) (hsize : t.size.FitsPicture)
    (hcodec : ∀ i : Png.Image, i.IsPlain → i.color = .rgba ∨ i.color = .gray →
      i.size = t.size → codec.Inverts i) :
    ∃ stream, u.toPngBy codec = .ok stream ∧ ofPngBy? codec stream name = some (.ok u) := by
  obtain ⟨stream, v, hwrite, hread, hv⟩ : ∃ stream v, u.toPngBy codec = .ok stream ∧
      ofPngBy? codec stream name = some (.ok v) ∧ v.IsPictureOf u name :=
    exists_picture (.inl hu.format_eq) (hu.size_eq ▸ hsize) (hu.size_eq ▸ hcodec) name
  exact ⟨stream, hwrite, by rw [hread, hv.eq hu.self]⟩

/-- **Without padding, a picture is what a blit leaves** of all of a texture. -/
theorem IsPictureOf.blit_eq (hu : u.IsPictureOf t name) (hbgrx : t.format = .bgrx)
    {dst : Texture} (hsize : dst.size = t.size) (hdst : dst.format = .rgba) :
    ∃ v log, blit t dst (.covering t.size) (.covering dst.size) = .ok (v, log) ∧
      v.level0 = u.level0 ∧ (dst.config = u.config → v = u) := by
  have hop : PixelOp.between? t.format dst.format = some .fromBgrx := by
    rw [hbgrx, hdst]
    rfl
  obtain ⟨v, log, hblit⟩ := blit_eq_ok hop (.covering t.size) (.covering dst.size)
  have hconfig := (repainted_blit hblit).config_eq
  have hvsize : v.size = dst.size := size_of_config hconfig
  have hvformat : v.format = .rgba := (format_of_config hconfig).trans hdst
  have hpixels : ∀ p, v.contains p = true → v.pixel p = u.pixel p := ?_
  · refine ⟨v, log, hblit, level0_eq_of_pixels (hvsize.trans (hsize.trans hu.size_eq.symm))
      (hvformat.trans hu.format_eq.symm) hpixels, fun hdstu => ?_⟩
    have hvu : v.config = u.config := hconfig.trans hdstu
    exact eq_of_pixels hvu ((congrArg TextureConfig.levels hvu).trans hu.levels_eq) hpixels
  intro p hp
  have hp' : dst.contains p = true := (contains_of_size hvsize p).symm.trans hp
  have hp'' : t.contains p = true := (contains_of_size hsize p).symm.trans hp'
  have hpicture := hu.pictured?_eq p hp''
  rw [pixel_blit_covering hsize.symm hdst hblit hp']
  obtain ⟨b, g, r, a, hpx⟩ :=
    exists_bytes (length_pixel_of_hasColor (.inr (.inr hbgrx)) hp'')
  rw [hbgrx, hpx] at hpicture ⊢
  exact Option.some.inj hpicture

/-- Formats without a picture are refused, whatever the codec. -/
theorem toPngBy_of_not_hasPicture (h : ¬ t.format.HasPicture) (codec : Png.Codec) :
    t.toPngBy codec = .error (.unsupportedFormat t.format) := by
  rw [toPngBy, toImage, PixelFormat.imageType?_of_not_hasPicture h]

end Texture

/-! ## Out and in -/

/-- **Pictures read back**, written down and read by what is implemented here, for every texture
that has a picture and is not too wide. -/
theorem own_pictures_read_back {t : Texture} (h : t.format.HasPicture) (hsize : t.size.FitsPicture)
    (hwide : t.size.cols ≤ 0x1000000) (name : String) :
    ∃ stream u, t.toPng = .ok stream ∧ Texture.ofPng? stream name = some (.ok u) ∧
      u.IsPictureOf t name :=
  Texture.exists_picture h hsize (Png.Codec.inverts_own_of_size hwide) name

/-- **Written down as an image and read back, a texture is its picture.** Let a codec give back what
it is given: images of samples of one byte, gray or of red, green, blue and alpha, of the size of a
texture. Then the texture can be written down, if its format has a picture, and what is read back
under a name has that name, the same size, one level, and for each pixel its colour. Written down
and read back once more it stays as it is. Without padding it is what a blit leaves of all of the
texture. Formats without a picture are refused.

What is implemented here is such a codec, as far as rows are not too wide:
`own_pictures_read_back`. -/
theorem pictures_round_trip (codec : Png.Codec) (t : Texture) (name : String) :
    (t.size.FitsPicture →
      (∀ i : Png.Image, i.IsPlain → i.color = .rgba ∨ i.color = .gray → i.size = t.size →
        codec.Inverts i) →
      t.format.HasPicture →
      ∃ stream u, t.toPngBy codec = .ok stream ∧
        Texture.ofPngBy? codec stream name = some (.ok u) ∧
        u.config = ⟨t.size, .rgba, 1, .static, name⟩ ∧
        (∀ p, t.contains p = true → t.format.pictured? (t.pixel p) = some (u.pixel p)) ∧
        (∃ again, u.toPngBy codec = .ok again ∧
          Texture.ofPngBy? codec again name = some (.ok u)) ∧
        (t.format = .bgrx → ∀ dst : Texture, dst.size = t.size → dst.format = .rgba →
          ∃ v log, blit t dst (.covering t.size) (.covering dst.size) = .ok (v, log) ∧
            v.level0 = u.level0 ∧ (dst.config = u.config → v = u))) ∧
    (¬ t.format.HasPicture → t.toPngBy codec = .error (.unsupportedFormat t.format)) ∧
    t.toPng = t.toPngBy .own ∧
    ∀ stream, Texture.ofPng? stream name = Texture.ofPngBy? .own stream name := by
  refine ⟨?_, fun h => Texture.toPngBy_of_not_hasPicture h codec, (Texture.toPngBy_own t).symm,
    fun stream => (Texture.ofPngBy?_own stream name).symm⟩
  intro hsize hcodec h
  obtain ⟨stream, u, hwrite, hread, hu⟩ := Texture.exists_picture h hsize hcodec name
  exact ⟨stream, u, hwrite, hread, hu.config_eq, hu.pictured?_eq, hu.again hsize hcodec,
    fun hbgrx _ hdsize hdformat => hu.blit_eq hbgrx hdsize hdformat⟩

/-- A pixel of four numbers. -/
def oneFloat : Texture :=
  .ofBytes { size := ⟨1, 1⟩, format := .rgba32f } (Array.replicate 16 0) rfl

/-- Blue and green come back in that order, opaque; four numbers are not written down. -/
theorem picture_of_twoPixels :
    (∃ stream u, twoPixels.toPng = .ok stream ∧
      Texture.ofPng? stream "two" = some (.ok u) ∧ u.name = "two" ∧
      u.pixel ⟨0, 0⟩ = [0, 0, 255, 255] ∧ u.pixel ⟨1, 0⟩ = [0, 255, 0, 255] ∧
      ∃ again, u.toPng = .ok again ∧ Texture.ofPng? again "two" = some (.ok u)) ∧
    oneFloat.toPng = .error (.unsupportedFormat .rgba32f) := by
  constructor
  · obtain ⟨stream, u, hwrite, hread, hconfig, hpixels, hagain, _⟩ :=
      (pictures_round_trip .own twoPixels "two").1 (by decide)
        (Png.Codec.inverts_own_of_size (by decide)) (by decide)
    refine ⟨stream, u, hwrite, hread, congrArg TextureConfig.name hconfig, ?_, ?_, hagain⟩
    · exact Option.some.inj ((hpixels ⟨0, 0⟩ rfl).symm.trans (by decide))
    · exact Option.some.inj ((hpixels ⟨1, 0⟩ rfl).symm.trans (by decide))
  · exact (pictures_round_trip .own oneFloat "").2.1 (by decide)

end BlitDevice
