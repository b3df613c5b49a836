import BlitDevice.Proofs.BlitSafety

/-!
# What a blit leaves in the destination

* `blit_resampled` — a blit that resamples: which pixels change, to what, and how often each is
  written.
* `whole_copy_agrees` — a blit of all of a texture onto one like it copies level 0 as it stands, and
  resampling would have come to the same; a blit that neither copies nor has an operation changes
  nothing.
-/

set_option autoImplicit false

namespace BlitDevice

variable {op : PixelOp} {src dst : Texture} {srcRect dstRect : Rect}

/-! ## Resampling -/

/-- The blit gives the texel a new pixel: neither rectangle nor source is empty, and the rectangle
holds the texel. -/
def BlitReaches (src : Texture) (dstRect : Rect) (p : Texel) : Prop :=
  (0 < dstRect.width ∧ 0 < dstRect.height) ∧ (0 < src.size.cols ∧ 0 < src.size.rows) ∧
    dstRect.Reaches p

instance (src : Texture) (dstRect : Rect) (p : Texel) : Decidable (BlitReaches src dstRect p) :=
  inferInstanceAs (Decidable (_ ∧ _))

theorem blitReaches_iff {p : Texel} :
    BlitReaches src dstRect p ↔ ¬ NothingToBlit src dstRect ∧ dstRect.Reaches p := by
  unfold BlitReaches NothingToBlit Rect.IsEmpty
  constructor
  · rintro ⟨h1, h2, h3⟩
    exact ⟨by omega, h3⟩
  · rintro ⟨h1, h2⟩
    exact ⟨by omega, by omega, h2⟩

theorem blitByPixel_eq_ok (hop : PixelOp.between? src.format dst.format = some op)
    (srcRect dstRect : Rect) :
    ∃ t log, blitByPixel src dst srcRect dstRect = .ok (t, log) ∧
      t = if NothingToBlit src dstRect then dst else resample op src dst srcRect dstRect := by
  rw [blitByPixel, hop]
  by_cases h : NothingToBlit src dstRect
  · exact ⟨dst, [], by dsimp only; rw [if_pos h], by rw [if_pos h]⟩
  · exact ⟨_, _, by dsimp only; rw [if_neg h], by rw [if_neg h]⟩

/-- What a blit that resamples does to a pixel. -/
theorem pixel_blitByPixel {t : Texture} {log : Log}
    (hop : PixelOp.between? src.format dst.format = some op)
    (h : blitByPixel src dst srcRect dstRect = .ok (t, log)) {p : Texel}
    (hp : dst.contains p = true) :
    t.pixel p = if BlitReaches src dstRect p then
      op.result (src.pixel (sourceTexel src.size srcRect dstRect p)) else dst.pixel p := by
  obtain ⟨t', log', h', ht⟩ := blitByPixel_eq_ok hop srcRect dstRect
  rw [h] at h'
  cases h'
  rw [ht]
  by_cases hn : NothingToBlit src dstRect
  · rw [if_pos hn, if_neg fun hr => (blitReaches_iff.mp hr).1 hn]
  · have hpos : 0 < src.size.cols ∧ 0 < src.size.rows := by
      unfold NothingToBlit at hn
      omega
    have hreach : BlitReaches src dstRect p ↔ dstRect.Reaches p :=
      ⟨fun hr => (blitReaches_iff.mp hr).2, fun hr => blitReaches_iff.mpr ⟨hn, hr⟩⟩
    rw [if_neg hn, pixel_resample hop hpos.1 hpos.2 hp]
    simp only [hreach]

/-- A texel that is reached comes up once in the loop, any other not at all. -/
theorem count_pixelWrites {p : Texel} (hp : dst.contains p = true) :
    (Canvas.pixelWrites src dst dstRect).count (dst.offset p) =
      if BlitReaches src dstRect p then 1 else 0 := by
  have hreach : BlitReaches src dstRect p ↔ ¬ NothingToBlit src dstRect ∧ dstRect.Reaches p :=
    blitReaches_iff
  unfold Canvas.pixelWrites
  by_cases hn : NothingToBlit src dstRect
  · rw [if_pos hn, if_neg (by rw [hreach]; exact fun h => h.1 hn), List.count_nil]
  · have hnodup : ((dstRect.visible dst.size).texels.map dst.offset).Nodup :=
      (Window.nodup_texels _).map_on fun q hq r hr h =>
        Texture.offset_inj (visible_subset q hq) (visible_subset r hr) h
    have hmem : dst.offset p ∈ (dstRect.visible dst.size).texels.map dst.offset ↔
        dstRect.Reaches p := by
      rw [List.mem_map]
      constructor
      · rintro ⟨q, hq, h⟩
        obtain ⟨hq', hr⟩ := mem_visible.mp hq
        rwa [← Texture.offset_inj hq' hp h]
      · intro h
        exact ⟨p, mem_visible.mpr ⟨hp, h⟩, rfl⟩
    rw [if_neg hn]
    by_cases h : dstRect.Reaches p
    · rw [if_pos (hreach.mpr ⟨hn, h⟩)]
      exact List.count_eq_one_of_mem hnodup (hmem.mpr h)
    · rw [if_neg fun h' => h (hreach.mp h').2]
      exact List.count_eq_zero.mpr fun h' => h (hmem.mp h')

/-- **What resampling leaves.** The blit answers. A texel that is reached has the pixel the
operation makes of the source's at `clamp (origin + ⌊offset * extent / span⌋)`, and was written
once; every other pixel is the old one and was not written; past level 0 nothing changed. -/
theorem blit_resampled (hop : PixelOp.between? src.format dst.format = some op)
    (hs : srcRect.InRange) (hd : dstRect.InRange) (hw : ¬ IsWholeCopy src dst srcRect dstRect) :
    ∃ t log writes,
      blit src dst srcRect dstRect = .ok (t, log) ∧
      (Canvas.blit src srcRect dstRect).run { texture := dst } =
        .ok (.ok (), { texture := t, log, writes }) ∧
      t.config = dst.config ∧
      (∀ p, dst.contains p = true → BlitReaches src dstRect p →
        ∃ q, src.contains q = true ∧
          (q.x : Int) = max 0 (min (srcRect.x +
            Int.fdiv ((p.x - dstRect.x) * srcRect.width) dstRect.width) (src.size.cols - 1)) ∧
          (q.y : Int) = max 0 (min (srcRect.y +
            Int.fdiv ((p.y - dstRect.y) * srcRect.height) dstRect.height) (src.size.rows - 1)) ∧
          t.pixel p = op.result (src.pixel q)) ∧
      (∀ p, dst.contains p = true → ¬ BlitReaches src dstRect p → t.pixel p = dst.pixel p) ∧
      (∀ p, dst.contains p = true →
        writes.count (dst.offset p) = if BlitReaches src dstRect p then 1 else 0) ∧
      ∀ i, dst.level0Size ≤ i → t.bytes[i]? = dst.bytes[i]? := by
  obtain ⟨t, log, hblit, ht⟩ := blitByPixel_eq_ok hop srcRect dstRect
  have hblit' : blit src dst srcRect dstRect = .ok (t, log) := by rw [blit, dif_neg hw, hblit]
  have hrun := Canvas.run_blit src hs hd { texture := dst }
  dsimp only at hrun
  rw [hblit', Canvas.blitWrites, if_neg hw] at hrun
  refine ⟨t, log, _, hblit', hrun, ?_, ?_, ?_, fun p hp => count_pixelWrites hp, ?_⟩
  · rw [ht]; split <;> rfl
  · intro p hp hreach
    obtain ⟨⟨hwidth, hheight⟩, ⟨hcols, hrows⟩, hr⟩ := hreach
    have hn := (blitReaches_iff.mp ⟨⟨hwidth, hheight⟩, ⟨hcols, hrows⟩, hr⟩).1
    refine ⟨sourceTexel src.size srcRect dstRect p, contains_sourceTexel hcols hrows _ _ p,
      sourceCoord_eq hwidth hcols, sourceCoord_eq hheight hrows, ?_⟩
    rw [ht, if_neg hn, pixel_resample hop hcols hrows hp, if_pos hr]
  · intro p hp hreach
    rw [ht]
    by_cases hn : NothingToBlit src dstRect
    · rw [if_pos hn]
    · have hpos : 0 < src.size.cols ∧ 0 < src.size.rows := by
        unfold NothingToBlit at hn; omega
      rw [if_neg hn, pixel_resample hop hpos.1 hpos.2 hp,
        if_neg fun h => hreach (blitReaches_iff.mpr ⟨hn, h⟩)]
  · intro i hi
    rw [ht]
    split
    · rfl
    · rw [resample_eq_paint]
      exact Texture.getElem?_bytes_paint visible_subset hi

/-- Two pixels of a source mirrored and doubled, hanging over the left edge: the second offset of
four is the first visible one. -/
theorem blit_resampled_mirrored :
    ∃ t log, blit twoPixels threeBlanks ⟨2, 0, -2, 1⟩ ⟨-1, 0, 4, 1⟩ = .ok (t, log) ∧
      t.pixel ⟨0, 0⟩ = [0, 255, 0, 255] ∧ t.pixel ⟨2, 0⟩ = [0, 0, 255, 255] ∧
      t.bytes[12]? = some 0 := by
  have hop : PixelOp.between? twoPixels.format threeBlanks.format = some .fromBgrx := by decide
  have hs : Rect.InRange ⟨2, 0, -2, 1⟩ := by unfold Rect.InRange; decide
  have hd : Rect.InRange ⟨-1, 0, 4, 1⟩ := by unfold Rect.InRange; decide
  have hw : ¬ IsWholeCopy twoPixels threeBlanks ⟨2, 0, -2, 1⟩ ⟨-1, 0, 4, 1⟩ := by decide
  obtain ⟨t, log, _, hblit, _, _, hnew, _, _, hrest⟩ := blit_resampled hop hs hd hw
  obtain ⟨⟨qx, qy⟩, _, hqx, hqy, hq⟩ := hnew ⟨0, 0⟩ (by decide) (by decide)
  obtain ⟨⟨rx, ry⟩, _, hrx, hry, hr⟩ := hnew ⟨2, 0⟩ (by decide) (by decide)
  have hqx : (qx : Int) = 1 := hqx.trans (by decide)
  have hqy : (qy : Int) = 0 := hqy.trans (by decide)
  have hrx : (rx : Int) = 0 := hrx.trans (by decide)
  have hry : (ry : Int) = 0 := hry.trans (by decide)
  obtain ⟨rfl, rfl, rfl, rfl⟩ : qx = 1 ∧ qy = 0 ∧ rx = 0 ∧ ry = 0 := by omega
  exact ⟨t, log, hblit, hq.trans (by decide), hr.trans (by decide),
    (hrest 12 (by decide)).trans (by decide)⟩

/-! ## A whole copy -/

/-- On rectangles that cover two textures of one size, every texel is taken from its own place. -/
theorem sourceTexel_covering {s : Size} {p : Texel} (hx : p.x < s.cols) (hy : p.y < s.rows) :
    sourceTexel s (.covering s) (.covering s) p = p := by
  have hcoord : ∀ {v n : Nat}, v < n → sourceCoord ((v : Int) - 0) 0 n n n = v := by
    intro v n h
    rw [sourceCoord_unscaled (by omega)]
    omega
  obtain ⟨px, py⟩ := p
  simp only [sourceTexel, Rect.covering, hcoord hx, hcoord hy]

/-- A format goes to itself unchanged, if there is an operation at all. -/
theorem PixelOp.eq_keep_of_between? {f : PixelFormat} (h : PixelOp.between? f f = some op) :
    op = .keep := by
  cases f <;> first | cases h; rfl | cases h

theorem reaches_covering {t : Texture} {p : Texel} (hp : t.contains p = true) :
    (Rect.covering t.size).Reaches p := by
  obtain ⟨hx, hy⟩ := Texture.contains_iff.mp hp
  simp only [Rect.Reaches, Rect.covering]
  omega

/-- All of a texture, blitted to all of one of its size, reaches every texel. -/
theorem blitReaches_covering (hsize : src.size = dst.size) {p : Texel}
    (hp : dst.contains p = true) : BlitReaches src (.covering dst.size) p := by
  obtain ⟨hx, hy⟩ := Texture.contains_iff.mp hp
  refine ⟨?_, ?_, reaches_covering hp⟩
  · simp only [Rect.covering]
    omega
  · rw [hsize]
    omega

/-- Pixel by pixel, all of a texture goes onto one like it unchanged. -/
theorem pixel_blitByPixel_covering {t : Texture} {log : Log} (hsize : src.size = dst.size)
    (hformat : src.format = dst.format) (hop : PixelOp.between? src.format dst.format = some op)
    (h : blitByPixel src dst (.covering src.size) (.covering dst.size) = .ok (t, log)) {p : Texel}
    (hp : dst.contains p = true) : t.pixel p = src.pixel p := by
  obtain ⟨hx, hy⟩ := Texture.contains_iff.mp hp
  have hkeep : op = .keep := PixelOp.eq_keep_of_between? (f := dst.format) (by rw [← hop, hformat])
  rw [pixel_blitByPixel hop h hp, if_pos (blitReaches_covering hsize hp), hkeep, hsize,
    sourceTexel_covering hx hy]
  rfl

/-- The loop leaves what copying level 0 as it stands leaves. -/
theorem blitByPixel_covering (hsize : src.size = dst.size) (hformat : src.format = dst.format)
    (hop : PixelOp.between? src.format dst.format = some op)
    (hlevel : src.level0.size = dst.level0Size) :
    ∃ log, blitByPixel src dst (.covering src.size) (.covering dst.size) =
      .ok (dst.withLevel0 src.level0 hlevel, log) := by
  obtain ⟨t, log, h, ht⟩ := blitByPixel_eq_ok hop (.covering src.size) (.covering dst.size)
  have hconfig : t.config = dst.config := by
    rw [ht]; split <;> rfl
  have hs := Texture.size_of_config hconfig
  have hf := Texture.format_of_config hconfig
  have hrest : ∀ i, dst.level0Size ≤ i → t.bytes[i]? = dst.bytes[i]? := by
    intro i hi
    rw [ht]
    split
    · rfl
    · rw [resample_eq_paint]
      exact Texture.getElem?_bytes_paint visible_subset hi
  have hlevel0 : t.level0 = src.level0 := by
    refine Texture.level0_eq_of_pixels (hs.trans hsize.symm) (hf.trans hformat.symm) ?_
    intro p hp
    exact pixel_blitByPixel_covering hsize hformat hop h
      ((Texture.contains_of_config hconfig p).symm.trans hp)
  refine ⟨log, ?_⟩
  rw [h]
  congr 2
  refine Texture.eq_of_level0 hconfig (by rw [hlevel0, Texture.level0_withLevel0]) fun i hi => ?_
  have hi' : dst.level0Size ≤ i := by
    rwa [← Texture.size_level0, hlevel0, hlevel] at hi
  rw [hrest i hi', Texture.getElem?_withLevel0 hi']

/-- **Copying level 0 and resampling it agree**, wherever both apply. All of a texture goes onto one
of its size and format whatever that is: level 0 is the source's afterwards and nothing behind it
changes; where the formats have an operation, the loop would have left just that. Nothing else goes
without an operation: such a blit is refused, whatever there is to write, and writes nothing. -/
theorem whole_copy_agrees :
    (∀ src dst : Texture, src.size = dst.size → src.format = dst.format →
      ∃ t, blit src dst (.covering src.size) (.covering dst.size) = .ok (t, []) ∧
        (Canvas.blit src (.covering src.size) (.covering dst.size)).run { texture := dst } =
          .ok (.ok (), { texture := t }) ∧
        t.config = dst.config ∧ t.level0 = src.level0 ∧
        (∀ i, dst.level0Size ≤ i → t.bytes[i]? = dst.bytes[i]?) ∧
        (PixelOp.between? src.format dst.format ≠ none →
          ∃ log writes,
            blitByPixel src dst (.covering src.size) (.covering dst.size) = .ok (t, log) ∧
            (Canvas.blitByPixel src (.covering src.size) (.covering dst.size)).run
              { texture := dst } = .ok (.ok (), { texture := t, log, writes }))) ∧
    ∀ (src dst : Texture) (srcRect dstRect : Rect), ¬ IsWholeCopy src dst srcRect dstRect →
      PixelOp.between? src.format dst.format = none →
        blit src dst srcRect dstRect = .error (.unsupportedFormatPair src.format dst.format) ∧
        (Canvas.blit src srcRect dstRect).run { texture := dst } =
          .ok (.error (.unsupportedFormatPair src.format dst.format), { texture := dst }) := by
  constructor
  · intro src dst hsize hformat
    have hw : IsWholeCopy src dst (.covering src.size) (.covering dst.size) :=
      ⟨hformat, hsize, rfl, rfl⟩
    have hblit : blit src dst (.covering src.size) (.covering dst.size) =
        .ok (dst.withLevel0 src.level0 hw.size_level0, []) := dif_pos hw
    refine ⟨_, hblit, ?_, rfl, Texture.level0_withLevel0, fun i => Texture.getElem?_withLevel0, ?_⟩
    · rw [Canvas.run_blit src (Rect.inRange_covering _) (Rect.inRange_covering _), hblit,
        Canvas.blitWrites, if_pos hw]
      rfl
    · intro hne
      obtain ⟨op, hop⟩ := Option.ne_none_iff_exists'.mp hne
      obtain ⟨log, h⟩ := blitByPixel_covering hsize hformat hop hw.size_level0
      refine ⟨log, Canvas.pixelWrites src dst (.covering dst.size), h, ?_⟩
      rw [Canvas.run_blitByPixel src (Rect.inRange_covering _) (Rect.inRange_covering _), h]
      rfl
  · intro src dst srcRect dstRect hw hop
    refine ⟨by rw [blit, dif_neg hw, blitByPixel, hop], ?_⟩
    exact Canvas.run_blit_of_between?_eq_none hw hop

/-- Two pixels without transparency go onto two others as they stand, though no operation keeps that
format; onto three of another format they do not go. -/
theorem whole_copy_unlisted :
    (∃ t, blit twoPixels twoPixels ⟨0, 0, 2, 1⟩ ⟨0, 0, 2, 1⟩ = .ok (t, []) ∧
      t.level0 = twoPixels.level0) ∧
    blit threeBlanks twoPixels ⟨0, 0, 0, 0⟩ ⟨5, 5, -1, 0⟩ =
      .error (.unsupportedFormatPair .rgba .bgrx) := by
  refine ⟨?_, ?_⟩
  · obtain ⟨t, hblit, _, _, hlevel, _⟩ := whole_copy_agrees.1 twoPixels twoPixels rfl rfl
    exact ⟨t, hblit, hlevel⟩
  · have hw : ¬ IsWholeCopy threeBlanks twoPixels ⟨0, 0, 0, 0⟩ ⟨5, 5, -1, 0⟩ := by decide
    have hop : PixelOp.between? threeBlanks.format twoPixels.format = none := by decide
    exact (whole_copy_agrees.2 threeBlanks twoPixels _ _ hw hop).1

end BlitDevice
