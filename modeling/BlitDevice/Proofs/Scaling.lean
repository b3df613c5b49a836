import BlitDevice.Proofs.Regions

/-!
# Scaling by whole factors

* `Size.IsTimes` — a size is so many times another one.
* `sourceTexel_up`, `sourceTexel_down` — scaled up, every texel becomes a block; scaled down, every
  block gives its first texel.
* `overlaid_up_down` — what is scaled up and then down again is what goes over directly.
* `upscaling_undone` — the same of the blits, with that they answer.
-/

set_option autoImplicit false

namespace BlitDevice

/-! ## Coordinates -/

/-- The size is `k` times as wide and `l` times as high as another one. -/
structure Size.IsTimes (large small : Size) (k l : Nat) : Prop where
  cols_eq : large.cols = k * small.cols
  rows_eq : large.rows = l * small.rows

/-- Stretched `k` times, a coordinate comes from the one it is a copy of. -/
theorem sourceCoord_up {k n v : Nat} (hv : v < k * n) :
    sourceCoord ((v : Int) - 0) 0 n (k * n : Nat) n = v / k := by
  have hn : 0 < n := Nat.pos_of_mul_pos_left (Nat.zero_lt_of_lt hv)
  have hquotient : (v : Int) * n / (k * n : Nat) = (v / k : Nat) := by
    push_cast
    exact Int.mul_ediv_mul_of_pos_left _ _ (by exact_mod_cast hn)
  have hlt : v / k < n := Nat.div_lt_of_lt_mul hv
  rw [sourceCoord, Int.sub_zero, hquotient]
  generalize v / k = q at hlt
  omega

/-- Shrunk `k` times, a coordinate comes from the first of its copies. -/
theorem sourceCoord_down {k n v : Nat} (hk : 0 < k) (hv : v < n) :
    sourceCoord ((v : Int) - 0) 0 (k * n : Nat) n (k * n) = k * v := by
  have hquotient : (v : Int) * (k * n : Nat) / n = (k * v : Nat) := by
    push_cast
    rw [← mul_assoc, Int.mul_ediv_cancel _ (by omega), mul_comm]
  have hlt : k * v < k * n := Nat.mul_lt_mul_of_pos_left hv hk
  rw [sourceCoord, Int.sub_zero, hquotient]
  omega

section coordinates

variable {large small : Size} {k l : Nat} {p : Texel}

/-- Scaled up, a texel becomes a block. -/
theorem sourceTexel_up (h : large.IsTimes small k l) (hx : p.x < large.cols)
    (hy : p.y < large.rows) :
    sourceTexel small (.covering small) (.covering large) p = ⟨p.x / k, p.y / l⟩ := by
  obtain ⟨hcols, hrows⟩ := h
  rw [hcols] at hx
  rw [hrows] at hy
  simp only [sourceTexel, Rect.covering, hcols, hrows, sourceCoord_up hx, sourceCoord_up hy]

/-- Scaled down, a block gives its first texel. -/
theorem sourceTexel_down (h : large.IsTimes small k l) (hk : 0 < k) (hl : 0 < l)
    (hx : p.x < small.cols) (hy : p.y < small.rows) :
    sourceTexel large (.covering large) (.covering small) p = ⟨k * p.x, l * p.y⟩ := by
  obtain ⟨hcols, hrows⟩ := h
  simp only [sourceTexel, Rect.covering, hcols, hrows, sourceCoord_down hk hx,
    sourceCoord_down hl hy]

end coordinates

/-! ## Layers -/

variable {source wide old : Texture} {k l : Nat}

/-- All of a texture with pixels, blitted to all of another one, reaches every texel. -/
theorem blitReaches_covering_of_pos (hcols : 0 < source.size.cols) (hrows : 0 < source.size.rows)
    {p : Texel} (hp : old.contains p = true) : BlitReaches source (.covering old.size) p := by
  obtain ⟨hx, hy⟩ := Texture.contains_iff.mp hp
  refine ⟨?_, ⟨hcols, hrows⟩, reaches_covering hp⟩
  simp only [Rect.covering]
  omega

/-- What a blit of all of a texture paints over all of another one. -/
theorem blitLayer_covering {format : PixelFormat} (hcols : 0 < source.size.cols)
    (hrows : 0 < source.size.rows) {p : Texel} (hp : old.contains p = true) :
    blitLayer source format (.covering source.size) (.covering old.size) p =
      some (source.format.carry format
        (source.pixel (sourceTexel source.size (.covering source.size) (.covering old.size) p))) :=
  if_pos (blitReaches_covering_of_pos hcols hrows hp)

/-- What was scaled up, in the place the texel becomes a block, is what was there, carried over. -/
theorem pixel_up {u : Texture} (hup : wide.size.IsTimes source.size k l) (hk : 0 < k) (hl : 0 < l)
    (hu : wide.Overlaid
      (blitLayer source wide.format (.covering source.size) (.covering wide.size)) u) {p : Texel}
    (hp : source.contains p = true) :
    u.pixel ⟨k * p.x, l * p.y⟩ = source.format.carry wide.format (source.pixel p) := by
  obtain ⟨hx, hy⟩ := Texture.contains_iff.mp hp
  have hx' : k * p.x < wide.size.cols := by
    rw [hup.cols_eq]
    exact Nat.mul_lt_mul_of_pos_left hx hk
  have hy' : l * p.y < wide.size.rows := by
    rw [hup.rows_eq]
    exact Nat.mul_lt_mul_of_pos_left hy hl
  have hp' : wide.contains ⟨k * p.x, l * p.y⟩ = true := Texture.contains_iff.mpr ⟨hx', hy'⟩
  rw [hu.pixel_eq _ hp', blitLayer_covering (by omega) (by omega) hp', Option.getD_some,
    sourceTexel_up hup hx' hy', Nat.mul_div_cancel_left _ hk, Nat.mul_div_cancel_left _ hl]

/-- **Scaled up by whole factors and down again, a texture goes over as it goes directly.** -/
theorem overlaid_up_down {u t : Texture} (hup : wide.size.IsTimes source.size k l) (hk : 0 < k)
    (hl : 0 < l) (hsize : old.size = source.size) (hformat : wide.format = old.format)
    (hu : wide.Overlaid
      (blitLayer source wide.format (.covering source.size) (.covering wide.size)) u)
    (ht : old.Overlaid (blitLayer u old.format (.covering u.size) (.covering old.size)) t) :
    old.Overlaid (blitLayer source old.format (.covering source.size) (.covering old.size)) t := by
  refine ⟨ht.repainted, fun p hp => ?_⟩
  have husize : u.size = wide.size := Texture.size_of_config hu.repainted.config_eq
  have huformat : u.format = old.format :=
    (Texture.format_of_config hu.repainted.config_eq).trans hformat
  have hp' : source.contains p = true := by
    rwa [Texture.contains_of_size hsize.symm]
  obtain ⟨hx, hy⟩ := Texture.contains_iff.mp hp'
  have hcols : 0 < u.size.cols := by
    rw [husize, hup.cols_eq]
    exact Nat.mul_pos hk (by omega)
  have hrows : 0 < u.size.rows := by
    rw [husize, hup.rows_eq]
    exact Nat.mul_pos hl (by omega)
  have hdown : sourceTexel u.size (.covering u.size) (.covering old.size) p =
      ⟨k * p.x, l * p.y⟩ := by
    rw [husize, hsize]
    exact sourceTexel_down hup hk hl hx hy
  have hdirect : sourceTexel source.size (.covering source.size) (.covering old.size) p = p := by
    rw [hsize]
    exact sourceTexel_covering hx hy
  rw [ht.pixel_eq p hp, blitLayer_covering hcols hrows hp,
    blitLayer_covering (by omega) (by omega) hp, hdown, hdirect, pixel_up hup hk hl hu hp',
    huformat, carry_self, hformat]

/-! ## Blits -/

/-- **Scaling up by whole factors is undone by scaling down.** Blit all of a texture with pixels,
RGBA or BGRX, to all of an RGBA texture that is `k` times as wide and `l` times as high, whatever is
in it, and that to all of an RGBA texture of the first one's size. Both blits answer, and the last
texture is what a blit of the first one to it leaves; level 0 of an RGBA texture is there as it
was. -/
theorem upscaling_undone {op : PixelOp} {source wide old : Texture} {k l : Nat}
    (hop : PixelOp.between? source.format .rgba = some op) (hwide : wide.format = .rgba)
    (hold : old.format = .rgba) (hcols : 0 < source.size.cols) (hrows : 0 < source.size.rows)
    (hk : 0 < k) (hl : 0 < l) (hup : wide.size.IsTimes source.size k l)
    (hsize : old.size = source.size) :
    ∃ u t up down direct,
      blit source wide (.covering source.size) (.covering wide.size) = .ok (u, up) ∧
      blit u old (.covering u.size) (.covering old.size) = .ok (t, down) ∧
      blit source old (.covering source.size) (.covering old.size) = .ok (t, direct) ∧
      (source.format = .rgba → t.level0 = source.level0) := by
  have hopWide : PixelOp.between? source.format wide.format = some op := by rwa [hwide]
  have hopOld : PixelOp.between? source.format old.format = some op := by rwa [hold]
  obtain ⟨u, up, hblit⟩ := blit_eq_ok hopWide (.covering source.size) (.covering wide.size)
  have hu := overlaid_blit hblit
  have huformat : u.format = .rgba :=
    (Texture.format_of_config hu.repainted.config_eq).trans hwide
  have hopBack : PixelOp.between? u.format old.format = some .keep := by rw [huformat, hold]; rfl
  obtain ⟨t, down, hblit'⟩ := blit_eq_ok hopBack (.covering u.size) (.covering old.size)
  obtain ⟨t', direct, hdirect⟩ := blit_eq_ok hopOld (.covering source.size) (.covering old.size)
  have ht := overlaid_up_down hup hk hl hsize (hwide.trans hold.symm) hu (overlaid_blit hblit')
  obtain rfl : t = t' := ht.eq (overlaid_blit hdirect)
  refine ⟨u, t, up, down, direct, hblit, hblit', hdirect, fun hsource => ?_⟩
  have hconfig := ht.repainted.config_eq
  refine Texture.level0_eq_of_pixels ((Texture.size_of_config hconfig).trans hsize)
    ((Texture.format_of_config hconfig).trans (hold.trans hsource.symm)) fun p hp => ?_
  have hp' : old.contains p = true := (Texture.contains_of_config hconfig p).symm.trans hp
  obtain ⟨hx, hy⟩ := Texture.contains_iff.mp hp'
  have hsame : sourceTexel source.size (.covering source.size) (.covering old.size) p = p := by
    rw [← hsize]
    exact sourceTexel_covering hx hy
  rw [ht.pixel_eq p hp', blitLayer_covering hcols hrows hp', Option.getD_some, hsame, hold, hsource,
    carry_self]

/-- Twelve pixels, all of them set. -/
def twelveWhites : Texture :=
  .ofBytes { size := ⟨4, 3⟩, format := .rgba } (Array.replicate 48 255) rfl

/-- Two pixels over a smaller level. -/
def twoWhites : Texture :=
  .ofBytes { size := ⟨2, 1⟩, format := .rgba, levels := 2 } (Array.replicate 16 255) rfl

/-- Blue and green, twice as wide and three times as high, and then blue and green again. -/
theorem twoPixels_scaled :
    ∃ u t up down, blit twoPixels twelveWhites ⟨0, 0, 2, 1⟩ ⟨0, 0, 4, 3⟩ = .ok (u, up) ∧
      blit u twoWhites (.covering u.size) ⟨0, 0, 2, 1⟩ = .ok (t, down) ∧
      t.bytes = #[0, 0, 255, 255, 0, 255, 0, 255, 255, 255, 255, 255, 255, 255, 255, 255] := by
  obtain ⟨u, t, up, down, direct, hup, hdown, hdirect, _⟩ :=
    @upscaling_undone .fromBgrx twoPixels twelveWhites twoWhites 2 3 rfl rfl rfl
      (by decide) (by decide) (by decide)
      (by decide) ⟨rfl, rfl⟩ rfl
  refine ⟨u, t, up, down, hup, hdown, ?_⟩
  have hbytes : (blit twoPixels twoWhites (.covering twoPixels.size)
      (.covering twoWhites.size)).map (fun r => r.1.bytes) = .ok #[0, 0, 255, 255, 0, 255, 0, 255,
        255, 255, 255, 255, 255, 255, 255, 255] := by
    decide
  rw [hdirect] at hbytes
  exact Except.ok.inj hbytes

end BlitDevice
