import BlitDevice.Proofs.Tasks

/-!
# Copies of regions

A region goes from one texture to a place in another as it is, not scaled. Where it hangs over the
edge of the source, the last column and row stand for what is missing; what hangs over the edge of
the destination is left out.

* `Stretch` — a region along one axis; `Stretch.InTwo` — in two parts, one after the other.
* `Memory.Region.Covers`, `Memory.Region.origin`, `regionLayer` — which texels a region reaches,
  where each is taken from, and what is painted.
* `Memory.copyRegion_eq_ok` — between formats that have an operation, the copy answers and paints
  just that.
* `Memory.Region.InBands`, `regionLayer_bands` — a region in two bands paints what its bands paint.
* `regions_copied_unscaled` — all of it, for a call.
-/

set_option autoImplicit false

namespace BlitDevice

/-! ## Along one axis -/

/-- A region along one axis: where it comes from, where it goes, and how long it is. -/
structure Stretch where
  start : Nat
  place : Nat
  length : Nat
  deriving DecidableEq

namespace Stretch

variable {s a b : Stretch} {v size : Nat}

/-- The stretch, put in its place, holds the coordinate. -/
def Holds (s : Stretch) (v : Nat) : Prop := s.place ≤ v ∧ v < s.place + s.length

instance (s : Stretch) (v : Nat) : Decidable (s.Holds v) := inferInstanceAs (Decidable (_ ∧ _))

/-- Where a coordinate comes from, in a source of a size. -/
def coord (s : Stretch) (size v : Nat) : Nat := min (s.start + (v - s.place)) (size - 1)

/-- The stretch is in two parts, one after the other, both where it comes from and where it goes. -/
structure InTwo (s a b : Stretch) : Prop where
  first : a.start = s.start ∧ a.place = s.place
  second : b.start = s.start + a.length ∧ b.place = s.place + a.length
  length_add : a.length + b.length = s.length

instance (s a b : Stretch) : Decidable (s.InTwo a b) :=
  decidable_of_iff ((a.start = s.start ∧ a.place = s.place) ∧
      (b.start = s.start + a.length ∧ b.place = s.place + a.length) ∧
      a.length + b.length = s.length)
    ⟨fun h => ⟨h.1, h.2.1, h.2.2⟩, fun h => ⟨h.first, h.second, h.length_add⟩⟩

/-- What the stretch holds, one of its parts holds. -/
theorem InTwo.holds (h : s.InTwo a b) : s.Holds v ↔ a.Holds v ∨ b.Holds v := by
  obtain ⟨hfirst, hsecond, hlength⟩ := h
  simp only [Holds]
  omega

/-- The parts have nothing in common. -/
theorem InTwo.not_holds (h : s.InTwo a b) (ha : a.Holds v) : ¬ b.Holds v := by
  obtain ⟨hfirst, hsecond, _⟩ := h
  simp only [Holds] at ha ⊢
  omega

theorem InTwo.coord_first (h : s.InTwo a b) : a.coord size v = s.coord size v := by
  rw [coord, coord, h.first.1, h.first.2]

/-- What the second part holds comes from where the stretch takes it from. -/
theorem InTwo.coord_second (h : s.InTwo a b) (hv : b.Holds v) :
    b.coord size v = s.coord size v := by
  obtain ⟨_, hsecond, _⟩ := h
  simp only [Holds] at hv
  simp only [coord]
  omega

/-- Not scaled, a coordinate comes from as far behind the start as it is behind its place. -/
theorem sourceCoord_eq_coord (hv : s.Holds v) (hsize : 0 < size) :
    sourceCoord ((v : Int) - s.place) s.start s.length s.length size = s.coord size v := by
  obtain ⟨hle, hlt⟩ := hv
  rw [sourceCoord_unscaled (by omega), coord]
  omega

end Stretch

/-! ## Regions -/

namespace Memory.Region

variable {r a b : Region} {size : Size} {p : Texel}

/-- The columns of a region. -/
def across (r : Region) (src : Size) : Stretch := ⟨r.srcX.toNat, r.dstX.toNat, r.width src⟩

/-- The rows of a region. -/
def down (r : Region) (src : Size) : Stretch := ⟨r.srcY.toNat, r.dstY.toNat, r.height src⟩

/-- The region, put in its place, holds the texel. -/
def Covers (r : Region) (src : Size) (p : Texel) : Prop :=
  (r.across src).Holds p.x ∧ (r.down src).Holds p.y

instance (r : Region) (src : Size) (p : Texel) : Decidable (r.Covers src p) :=
  inferInstanceAs (Decidable (_ ∧ _))

/-- The texel of the source that a texel is taken from. -/
def origin (r : Region) (src : Size) (p : Texel) : Texel :=
  ⟨(r.across src).coord src.cols p.x, (r.down src).coord src.rows p.y⟩

theorem reaches_dstRect : (r.dstRect size).Reaches p ↔ r.Covers size p := by
  simp only [Rect.Reaches, dstRect, Covers, Stretch.Holds, across, down]
  omega

/-- A blit between the rectangles of a region does not scale. -/
theorem sourceTexel_eq_origin (h : r.Covers size p) (hcols : 0 < size.cols)
    (hrows : 0 < size.rows) :
    sourceTexel size (r.srcRect size) (r.dstRect size) p = r.origin size p := by
  have hx := Stretch.sourceCoord_eq_coord h.1 hcols
  have hy := Stretch.sourceCoord_eq_coord h.2 hrows
  rw [sourceTexel, origin, ← hx, ← hy]
  rfl

/-- A region reaches a texel if its offsets from the region's place are inside the region. -/
theorem covers_iff : r.Covers size p ↔
    ∃ i < r.width size, ∃ j < r.height size, p = ⟨r.dstX.toNat + i, r.dstY.toNat + j⟩ := by
  obtain ⟨x, y⟩ := p
  simp only [Covers, Stretch.Holds, across, down, Texel.mk.injEq]
  constructor
  · intro h
    exact ⟨x - r.dstX.toNat, by omega, y - r.dstY.toNat, by omega, by omega, by omega⟩
  · rintro ⟨i, hi, j, hj, rfl, rfl⟩
    omega

/-- Where a texel at given offsets is taken from. -/
theorem origin_add (i j : Nat) : r.origin size ⟨r.dstX.toNat + i, r.dstY.toNat + j⟩ =
    ⟨min (r.srcX.toNat + i) (size.cols - 1), min (r.srcY.toNat + j) (size.rows - 1)⟩ := by
  simp only [origin, Stretch.coord, across, down, Nat.add_sub_cancel_left]

/-- An extent of zero reaches to the edge of the source, if the region starts before it. -/
theorem natCast_regionExtent (extent : UInt32) (origin size : Nat) :
    (regionExtent extent.toNat origin size : Int) =
      if extent = 0 then max ((size : Int) - origin) 0 else (extent.toNat : Int) := by
  have hzero : extent.toNat = 0 ↔ extent = 0 := by rw [← UInt32.toNat_inj]; rfl
  simp only [regionExtent, hzero]
  split <;> omega

/-- The region is in two bands, side by side or one above the other. -/
def InBands (r a b : Region) (src : Size) : Prop :=
  (r.across src).InTwo (a.across src) (b.across src) ∧
      a.down src = r.down src ∧ b.down src = r.down src ∨
    (r.down src).InTwo (a.down src) (b.down src) ∧
      a.across src = r.across src ∧ b.across src = r.across src

instance (r a b : Region) (src : Size) : Decidable (r.InBands a b src) :=
  inferInstanceAs (Decidable (_ ∨ _))

/-- What the region covers, one of its bands covers. -/
theorem InBands.covers (h : r.InBands a b size) :
    r.Covers size p ↔ a.Covers size p ∨ b.Covers size p := by
  unfold Covers
  rcases h with ⟨htwo, ha, hb⟩ | ⟨htwo, ha, hb⟩
  · rw [ha, hb, htwo.holds, or_and_right]
  · rw [ha, hb, htwo.holds, and_or_left]

/-- No texel is covered by both bands. -/
theorem InBands.not_covers (h : r.InBands a b size) (hp : a.Covers size p) :
    ¬ b.Covers size p := by
  rcases h with ⟨htwo, _⟩ | ⟨htwo, _⟩
  · exact fun hb => htwo.not_holds hp.1 hb.1
  · exact fun hb => htwo.not_holds hp.2 hb.2

theorem InBands.origin_first (h : r.InBands a b size) : a.origin size p = r.origin size p := by
  rcases h with ⟨htwo, ha, _⟩ | ⟨htwo, ha, _⟩
  · rw [origin, origin, ha, htwo.coord_first]
  · rw [origin, origin, ha, htwo.coord_first]

theorem InBands.origin_second (h : r.InBands a b size) (hp : b.Covers size p) :
    b.origin size p = r.origin size p := by
  rcases h with ⟨htwo, _, hb⟩ | ⟨htwo, _, hb⟩
  · rw [origin, origin, hb, htwo.coord_second hp.1]
  · rw [origin, origin, hb, htwo.coord_second hp.2]

end Memory.Region

/-! ## What is painted -/

variable {op : PixelOp} {source old t u w : Texture} {r a b : Memory.Region}

/-- What a copy of a region paints. -/
def regionLayer (op : PixelOp) (source : Texture) (r : Memory.Region) : Layer := fun p =>
  if r.Covers source.size p ∧ 0 < source.size.cols ∧ 0 < source.size.rows then
    some (op.result (source.pixel (r.origin source.size p)))
  else none

/-- A blit between the rectangles of a region paints the region. -/
theorem blitLayer_region (hop : PixelOp.between? source.format old.format = some op)
    (r : Memory.Region) :
    blitLayer source old.format (r.srcRect source.size) (r.dstRect source.size) =
      regionLayer op source r := by
  funext p
  have hreach : BlitReaches source (r.dstRect source.size) p ↔
      r.Covers source.size p ∧ 0 < source.size.cols ∧ 0 < source.size.rows := by
    unfold BlitReaches
    rw [Memory.Region.reaches_dstRect]
    constructor
    · rintro ⟨_, hsource, hp⟩
      exact ⟨hp, hsource⟩
    · rintro ⟨hp, hsource⟩
      refine ⟨?_, hsource, hp⟩
      simp only [Memory.Region.Covers, Stretch.Holds, Memory.Region.across,
        Memory.Region.down] at hp
      simp only [Memory.Region.dstRect]
      omega
  simp only [blitLayer, regionLayer, hreach]
  split
  · rename_i h
    rw [PixelFormat.carry, hop, Memory.Region.sourceTexel_eq_origin h.1 h.2.1 h.2.2]
  · rfl

theorem regionLayer_eq_some {p : Texel} (hp : r.Covers source.size p)
    (hsource : 0 < source.size.cols ∧ 0 < source.size.rows) :
    regionLayer op source r p = some (op.result (source.pixel (r.origin source.size p))) :=
  if_pos ⟨hp, hsource⟩

theorem regionLayer_eq_none {p : Texel}
    (hp : ¬ (r.Covers source.size p ∧ 0 < source.size.cols ∧ 0 < source.size.rows)) :
    regionLayer op source r p = none :=
  if_neg hp

/-- Two bands paint, between them, what the region paints. -/
theorem regionLayer_bands (op : PixelOp) (h : r.InBands a b source.size) (p : Texel) :
    regionLayer op source a p = none ∧ regionLayer op source b p = regionLayer op source r p ∨
      regionLayer op source b p = none ∧ regionLayer op source a p = regionLayer op source r p := by
  unfold regionLayer
  by_cases ha : a.Covers source.size p
  · right
    simp only [ha, h.not_covers ha, h.covers.mpr (.inl ha), h.origin_first, false_and, if_false,
      true_and]
  · left
    by_cases hb : b.Covers source.size p
    · simp only [ha, hb, h.covers.mpr (.inr hb), h.origin_second hb, false_and, if_false,
        true_and]
    · have hr : ¬ r.Covers source.size p := fun hr => (h.covers.mp hr).elim ha hb
      simp only [ha, hb, hr, false_and, if_false, and_self]

/-- Layers that paint, between them, what one layer paints, can be painted one after the other. -/
theorem Texture.Overlaid.eq_of_two {first second whole : Layer}
    (htwo : ∀ p, first p = none ∧ second p = whole p ∨ second p = none ∧ first p = whole p)
    (ht : old.Overlaid whole t) (hu : old.Overlaid first u) (hw : u.Overlaid second w) : w = t := by
  refine (hu.repainted.trans hw.repainted).ext ht.repainted fun p hp => ?_
  rw [hu.pixel_trans hw hp, ht.pixel_eq p hp]
  rcases htwo p with ⟨hnone, heq⟩ | ⟨hnone, heq⟩
  · rw [hnone, heq, Option.getD_none]
  · rw [hnone, heq, Option.getD_none]

/-! ## Copies -/

/-- Between formats that have an operation, every blit answers. -/
theorem blit_eq_ok (hop : PixelOp.between? source.format old.format = some op)
    (srcRect dstRect : Rect) : ∃ t log, blit source old srcRect dstRect = .ok (t, log) := by
  by_cases hw : IsWholeCopy source old srcRect dstRect
  · exact ⟨_, _, dif_pos hw⟩
  · obtain ⟨t, log, h, _⟩ := blitByPixel_eq_ok hop srcRect dstRect
    exact ⟨t, log, by rw [blit, dif_neg hw, h]⟩

namespace Memory

variable {m : Memory} {dst src : TextureId}

/-- No operation goes to a handle that was never given out. -/
theorem has_of_between? {format : PixelFormat}
    (hop : PixelOp.between? format (m.texture dst).format = some op) : m.Has (.texture dst) := by
  by_contra h
  have hnone : m.textures[dst.index]? = none := Array.getElem?_eq_none (Nat.le_of_not_lt h)
  rw [texture, hnone] at hop
  cases format <;> cases hop

/-- **A region is copied**, between formats that have an operation. -/
theorem copyRegion_eq_ok (hne : dst ≠ src)
    (hop : PixelOp.between? (m.texture src).format (m.texture dst).format = some op) (r : Region) :
    ∃ t log, m.copyRegion dst src r = .ok (m.setTexture dst t, log) ∧
      (m.texture dst).Overlaid (regionLayer op (m.texture src) r) t := by
  obtain ⟨t, log, h⟩ := blit_eq_ok hop (r.srcRect (m.texture src).size)
    (r.dstRect (m.texture src).size)
  refine ⟨t, log, ?_, ?_⟩
  · rw [copyRegion_eq m hne, h]
    rfl
  · rw [← blitLayer_region hop r]
    exact overlaid_blit h

end Memory

namespace Session

variable {s : Session} {dst src : TextureId}

/-- What a call that copies a region answers and leaves. -/
theorem step_copyRegion (hne : dst ≠ src) (hop : PixelOp.between? (s.memory.texture src).format
      (s.memory.texture dst).format = some op) (r : Memory.Region) :
    ∃ t, (s.memory.texture dst).Overlaid (regionLayer op (s.memory.texture src) r) t ∧
      (s.step (.copyRegion dst src r)).answer = .ok .done ∧
      (s.step (.copyRegion dst src r)).session =
        { s with memory := s.memory.setTexture dst t } := by
  obtain ⟨t, log, h, ht⟩ := Memory.copyRegion_eq_ok hne hop r
  refine ⟨t, ht, ?_, ?_⟩
  · change (s.commit [] (s.memory.copyRegion dst src r)).unit.answer = _
    rw [answer_commit, h]
    rfl
  · change (s.commit [] (s.memory.copyRegion dst src r)).unit.session = _
    rw [session_commit, h]

/-- **Two regions that paint, between them, what one paints**, copied one after the other, leave
what that one leaves. -/
theorem step_copyRegion_two (hne : dst ≠ src)
    (hop : PixelOp.between? (s.memory.texture src).format (s.memory.texture dst).format = some op)
    (htwo : ∀ p, regionLayer op (s.memory.texture src) a p = none ∧
        regionLayer op (s.memory.texture src) b p = regionLayer op (s.memory.texture src) r p ∨
      regionLayer op (s.memory.texture src) b p = none ∧
        regionLayer op (s.memory.texture src) a p = regionLayer op (s.memory.texture src) r p) :
    (s.step (.copyRegion dst src a)).answer = .ok .done ∧
      ((s.step (.copyRegion dst src a)).session.step (.copyRegion dst src b)).answer = .ok .done ∧
      ((s.step (.copyRegion dst src a)).session.step (.copyRegion dst src b)).session =
        (s.step (.copyRegion dst src r)).session := by
  obtain ⟨t, ht, _, hwhole⟩ := step_copyRegion hne hop r
  obtain ⟨u, hu, hfirst, hbetween⟩ := step_copyRegion hne hop a
  have hhas : s.memory.Has (.texture dst) := Memory.has_of_between? hop
  have hsource : (s.memory.setTexture dst u).texture src = s.memory.texture src :=
    Memory.load_store_of_ne (f := .texture dst) (g := .texture src) fun e =>
      hne (Surface.texture.inj e)
  have hdst : (s.memory.setTexture dst u).texture dst = u := Memory.load_store_self hhas
  have hformat : u.format = (s.memory.texture dst).format :=
    Texture.format_of_config hu.repainted.config_eq
  have hop' : PixelOp.between? ((s.memory.setTexture dst u).texture src).format
      ((s.memory.setTexture dst u).texture dst).format = some op := by
    rw [hsource, hdst, hformat, hop]
  rw [hbetween, hwhole]
  obtain ⟨w, hw, hsecond, hafter⟩ :=
    step_copyRegion (s := { s with memory := s.memory.setTexture dst u }) hne hop' b
  refine ⟨hfirst, hsecond, ?_⟩
  rw [hsource, hdst] at hw
  have hwt : w = t := ht.eq_of_two htwo hu hw
  rw [hafter, hwt]
  exact congrArg (fun memory => { s with memory }) (Memory.store_store (f := .texture dst))

end Session

/-- **A copy of a region does not scale**; it stops at the edge of the destination and goes on with
the last column and row beyond the edge of the source. Between formats that have an operation it
answers, however large the numbers are, and no number is more than it can hold on the way. An
extent of zero reaches to the edge of the source. Where the region or the source is empty, nothing
changes. Copied in two bands, one after the other, the region is the same. -/
theorem regions_copied_unscaled (s : Session) {dst src : TextureId} (hne : dst ≠ src)
    {source old : Texture} (hsource : s.memory.texture src = source)
    (hold : s.memory.texture dst = old) {op : PixelOp}
    (hop : PixelOp.between? source.format old.format = some op) (r : Memory.Region) :
    ∃ (width height : Nat) (t : Texture) (w : Workspace),
      ((width : Int) = if r.srcWidth = 0 then max ((source.size.cols : Int) - r.srcX.toNat) 0
        else r.srcWidth.toNat) ∧
      ((height : Int) = if r.srcHeight = 0 then max ((source.size.rows : Int) - r.srcY.toNat) 0
        else r.srcHeight.toNat) ∧
      (s.step (.copyRegion dst src r)).answer = .ok .done ∧
      (s.step (.copyRegion dst src r)).session =
        { s with memory := s.memory.setTexture dst t } ∧
      (s.memory.setTexture dst t).texture dst = t ∧
      (Workspace.perform (.copyRegion dst src r)).run { session := s } = .ok (.ok .done, w) ∧
      w.session = { s with memory := s.memory.setTexture dst t } ∧
      t.config = old.config ∧
      (∀ i < width, ∀ j < height, 0 < source.size.cols → 0 < source.size.rows →
        old.contains ⟨r.dstX.toNat + i, r.dstY.toNat + j⟩ = true →
        t.pixel ⟨r.dstX.toNat + i, r.dstY.toNat + j⟩ =
          op.result (source.pixel ⟨min (r.srcX.toNat + i) (source.size.cols - 1),
            min (r.srcY.toNat + j) (source.size.rows - 1)⟩)) ∧
      (∀ p, old.contains p = true →
        (∀ i < width, ∀ j < height, p ≠ ⟨r.dstX.toNat + i, r.dstY.toNat + j⟩) →
        t.pixel p = old.pixel p) ∧
      (∀ k, old.level0Size ≤ k → t.bytes[k]? = old.bytes[k]?) ∧
      (width = 0 ∨ height = 0 ∨ source.size.cols = 0 ∨ source.size.rows = 0 → t = old) ∧
      ∀ a b : Memory.Region, r.InBands a b source.size →
        ((s.step (.copyRegion dst src a)).answer = .ok .done ∧
          ((s.step (.copyRegion dst src a)).session.step (.copyRegion dst src b)).answer =
            .ok .done ∧
          ((s.step (.copyRegion dst src a)).session.step (.copyRegion dst src b)).session =
            (s.step (.copyRegion dst src r)).session) ∧
        (s.step (.copyRegion dst src b)).answer = .ok .done ∧
        ((s.step (.copyRegion dst src b)).session.step (.copyRegion dst src a)).answer =
          .ok .done ∧
        ((s.step (.copyRegion dst src b)).session.step (.copyRegion dst src a)).session =
          (s.step (.copyRegion dst src r)).session := by
  subst hsource hold
  obtain ⟨t, ht, hanswer, hsession⟩ := Session.step_copyRegion hne hop r
  have hhas : s.memory.Has (.texture dst) := Memory.has_of_between? hop
  have hrun := Workspace.run_perform (w := { session := s }) (fun _ => rfl)
    (.copyRegion dst src r)
  rw [Workspace.settle, hanswer] at hrun
  refine ⟨r.width _, r.height _, t, _, Memory.Region.natCast_regionExtent _ _ _,
    Memory.Region.natCast_regionExtent _ _ _, hanswer, hsession, Memory.load_store_self hhas, hrun,
    hsession, ht.repainted.config_eq, ?_, ?_, ht.repainted.rest_eq, ?_, ?_⟩
  · intro i hi j hj hcols hrows hp
    have hcovers := Memory.Region.covers_iff.mpr ⟨i, hi, j, hj, rfl⟩
    rw [ht.pixel_eq _ hp, regionLayer_eq_some hcovers ⟨hcols, hrows⟩,
      Memory.Region.origin_add, Option.getD_some]
  · intro p hp hout
    rw [ht.pixel_eq p hp, regionLayer_eq_none, Option.getD_none]
    rintro ⟨hcovers, _⟩
    obtain ⟨i, hi, j, hj, rfl⟩ := Memory.Region.covers_iff.mp hcovers
    exact hout i hi j hj rfl
  · intro hempty
    refine ht.repainted.ext (.refl _) fun p hp => ?_
    rw [ht.pixel_eq p hp, regionLayer_eq_none, Option.getD_none]
    rintro ⟨hcovers, hcols, hrows⟩
    obtain ⟨i, hi, j, hj, _⟩ := Memory.Region.covers_iff.mp hcovers
    omega
  · intro a b hbands
    have htwo := regionLayer_bands op hbands
    exact ⟨Session.step_copyRegion_two hne hop htwo,
      Session.step_copyRegion_two hne hop fun p => (htwo p).symm⟩

/-- Blue and green go beside a blank pixel, all at once or one after the other. From far beyond the
edge there is only green, as far as the three pixels go. -/
theorem regions_of_twoPixels :
    (∃ t, (twoSizes.step (.copyRegion ⟨1⟩ ⟨0⟩ ⟨1, 0, 0, 0, 0, 0⟩)).session.memory =
        twoSizes.memory.setTexture ⟨1⟩ t ∧
      t.pixel ⟨0, 0⟩ = [0, 0, 0, 0] ∧ t.pixel ⟨2, 0⟩ = [0, 255, 0, 255]) ∧
    ((twoSizes.step (.copyRegion ⟨1⟩ ⟨0⟩ ⟨1, 0, 0, 0, 1, 0⟩)).session.step
        (.copyRegion ⟨1⟩ ⟨0⟩ ⟨2, 0, 1, 0, 0, 0⟩)).session =
      (twoSizes.step (.copyRegion ⟨1⟩ ⟨0⟩ ⟨1, 0, 0, 0, 0, 0⟩)).session ∧
    ∃ t, (twoSizes.step (.copyRegion ⟨1⟩ ⟨0⟩
          ⟨1, 0, 4294967295, 0, 4294967295, 4294967295⟩)).session.memory =
        twoSizes.memory.setTexture ⟨1⟩ t ∧
      t.pixel ⟨1, 0⟩ = [0, 255, 0, 255] ∧ t.pixel ⟨2, 0⟩ = [0, 255, 0, 255] := by
  have hop : PixelOp.between? twoPixels.format threeBlanks.format = some .fromBgrx := rfl
  have hne : (⟨1⟩ : TextureId) ≠ ⟨0⟩ := by decide
  obtain ⟨width, height, t, _, hwidth, hheight, _, hsession, _, _, _, _, hinside, houtside, _, _,
    hbands⟩ := regions_copied_unscaled twoSizes hne rfl rfl hop ⟨1, 0, 0, 0, 0, 0⟩
  obtain ⟨width', height', u, _, hwidth', hheight', _, hsession', _, _, _, _, hinside', _⟩ :=
    regions_copied_unscaled twoSizes hne rfl rfl hop
      ⟨1, 0, 4294967295, 0, 4294967295, 4294967295⟩
  have hwidth : (width : Int) = 2 := hwidth.trans (by decide)
  have hheight : (height : Int) = 1 := hheight.trans (by decide)
  have hwidth' : (width' : Int) = 4294967295 := hwidth'.trans (by decide)
  have hheight' : (height' : Int) = 4294967295 := hheight'.trans (by decide)
  have hfirst : ∀ i < width, ∀ j < height, (⟨0, 0⟩ : Texel) ≠ ⟨1 + i, 0 + j⟩ := by
    intro i _ j _ h
    have hx : 0 = 1 + i := congrArg Texel.x h
    omega
  refine ⟨⟨t, congrArg Session.memory hsession, ?_, ?_⟩, ?_, u, congrArg Session.memory hsession',
    ?_, ?_⟩
  · exact (houtside ⟨0, 0⟩ rfl hfirst).trans (by decide)
  · exact (hinside 1 (by omega) 0 (by omega) (by decide) (by decide) rfl).trans (by decide)
  · exact (hbands ⟨1, 0, 0, 0, 1, 0⟩ ⟨2, 0, 1, 0, 0, 0⟩ (by decide)).1.2.2
  · exact (hinside' 0 (by omega) 0 (by omega) (by decide) (by decide) rfl).trans (by decide)
  · exact (hinside' 1 (by omega) 0 (by omega) (by decide) (by decide) rfl).trans (by decide)

end BlitDevice
