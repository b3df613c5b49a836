import BlitDevice.Proofs.Dispatch
import BlitDevice.Proofs.Regions

/-!
# Quads with their texture coordinates the other way round

Swapped between the two corners of a quad, texture coordinates along one axis give a source
rectangle that starts at its far edge and runs backwards. That edge is one beyond the last texel.

* `Rect.turnedAcross`, `Rect.turnedDown` — a rectangle that runs backwards along one axis.
* `QuadGeometry.ofCorners_turnedAcross`, `QuadGeometry.ofCorners_turnedDown` — swapped coordinates
  give it.
* `sourceCoord_turned` — what it is sampled at: one texel further on than in a mirror image.
* `mirrored_from_last_column` — a rectangle that starts at its last texel comes out as its mirror
  image.
* `turned_quads_sampled` — one from swapped coordinates does not.
* `mirroring_repeats_a_column` — a draw whose picture is no mirror image.
-/

set_option autoImplicit false

namespace BlitDevice

/-! ## Rectangles -/

namespace Rect

/-- From the right edge leftwards. -/
def turnedAcross (r : Rect) : Rect := ⟨r.x + r.width, r.y, -r.width, r.height⟩

/-- From the lower edge upwards. -/
def turnedDown (r : Rect) : Rect := ⟨r.x, r.y + r.height, r.width, -r.height⟩

/-- From the last column leftwards. -/
def mirroredAcross (r : Rect) : Rect := ⟨r.x + r.width - 1, r.y, -r.width, r.height⟩

/-- The same extents from another place. -/
def movedTo (r : Rect) (x y : Int) : Rect := ⟨x, y, r.width, r.height⟩

/-- The rectangle runs rightwards and downwards and keeps inside. -/
structure LiesIn (r : Rect) (s : Size) : Prop where
  width : 1 ≤ r.width
  height : 1 ≤ r.height
  left : 0 ≤ r.x
  top : 0 ≤ r.y
  right : r.x + r.width ≤ s.cols
  bottom : r.y + r.height ≤ s.rows

end Rect

section corners

variable {K : Type} [Scalar K]

/-- From its end to its start, a side has the opposite extent. -/
theorem span_swap {side : RectSide} {low high : K} {start extent : Int}
    (h : span side low high = .ok (start, extent)) (hextent : extent ≠ Binary32.leastWord) :
    span side high low = .ok (start + extent, -extent) := by
  obtain ⟨rfl, rfl, hfits⟩ := span_eq_ok_iff.mp h
  refine span_eq_ok_iff.mpr ⟨by omega, by omega, ?_⟩
  rw [Binary32.leastWord] at hextent hfits ⊢
  rw [Binary32.greatestWord] at hfits ⊢
  omega

namespace QuadGeometry

variable {p0 p3 : ScreenPoint K} {u0 v0 u3 v3 : K} {quad : QuadGeometry}

/-- Swapped along the horizontal, texture coordinates give a rectangle that runs leftwards. -/
theorem ofCorners_turnedAcross (h : ofCorners p0 p3 (u0, v0) (u3, v3) = .ok quad)
    (hwidth : quad.src.width ≠ Binary32.leastWord) :
    ofCorners p0 p3 (u3, v0) (u0, v3) = .ok ⟨quad.src.turnedAcross, quad.dst⟩ := by
  obtain ⟨hx, hy, hu, hv⟩ := ofCorners_eq_ok h
  simp only [ofCorners, hx, hy, span_swap hu hwidth, hv, ok_bind]
  rfl

theorem ofCorners_turnedDown (h : ofCorners p0 p3 (u0, v0) (u3, v3) = .ok quad)
    (hheight : quad.src.height ≠ Binary32.leastWord) :
    ofCorners p0 p3 (u0, v3) (u3, v0) = .ok ⟨quad.src.turnedDown, quad.dst⟩ := by
  obtain ⟨hx, hy, hu, hv⟩ := ofCorners_eq_ok h
  simp only [ofCorners, hx, hy, hu, span_swap hv hheight, ok_bind]
  rfl

end QuadGeometry

end corners

/-! ## Texels -/

section coordinates

variable {offset start extent : Int} {size : Nat}

/-- Backwards and not scaled, offsets count down from the origin. -/
theorem sourceCoord_backward {origin : Int} (hextent : 0 < extent) :
    (sourceCoord offset origin (-extent) extent size : Int) =
      max 0 (min (origin - offset) (size - 1)) := by
  rw [sourceCoord, mul_neg, ← neg_mul, Int.mul_ediv_cancel _ (by omega)]
  omega

/-- Onwards, they count up from the start. -/
theorem sourceCoord_onward (h0 : 0 ≤ offset) (h1 : offset < extent) (hstart : 0 ≤ start)
    (hinside : start + extent ≤ size) :
    (sourceCoord offset start extent extent size : Int) = start + offset := by
  rw [sourceCoord_unscaled (by omega)]
  omega

/-- From the far edge, the first texel is one beyond the last, or is held at the edge. -/
theorem sourceCoord_turned (h0 : 0 ≤ offset) (h1 : offset < extent) (hstart : 0 ≤ start)
    (hinside : start + extent ≤ size) :
    (sourceCoord offset (start + extent) (-extent) extent size : Int) =
      min (start + extent - offset) (size - 1) := by
  rw [sourceCoord_backward (by omega)]
  omega

/-- From the last texel, all of them come in turn. -/
theorem sourceCoord_mirrored (h0 : 0 ≤ offset) (h1 : offset < extent) (hstart : 0 ≤ start)
    (hinside : start + extent ≤ size) :
    (sourceCoord offset (start + extent - 1) (-extent) extent size : Int) =
      start + extent - 1 - offset := by
  rw [sourceCoord_backward (by omega)]
  omega

end coordinates

section pixels

variable {source old t : Texture} {log : Log} {src srcRect dstRect : Rect} {x y : Int}
  {p q : Texel} {op : PixelOp}

/-- A texel of the rectangle has its pixel from where its two offsets are sampled. -/
theorem pixel_blit_movedTo (h : blit source old srcRect (src.movedTo x y) = .ok (t, log))
    (hsrc : src.LiesIn source.size) (hp : old.contains p = true)
    (hreach : (src.movedTo x y).Reaches p)
    (hx : 0 ≤ p.x - x → p.x - x < src.width →
      (sourceCoord (p.x - x) srcRect.x srcRect.width src.width source.size.cols : Int) = q.x)
    (hy : 0 ≤ p.y - y → p.y - y < src.height →
      (sourceCoord (p.y - y) srcRect.y srcRect.height src.height source.size.rows : Int) = q.y) :
    t.pixel p = source.format.carry old.format (source.pixel q) := by
  obtain ⟨hwidth, hheight, hleft, htop, hright, hbottom⟩ := hsrc
  have hreaches : BlitReaches source (src.movedTo x y) p :=
    ⟨⟨hwidth, hheight⟩, ⟨by omega, by omega⟩, hreach⟩
  simp only [Rect.Reaches, Rect.movedTo] at hreach
  have hq : sourceTexel source.size srcRect (src.movedTo x y) p = q :=
    congrArg₂ Texel.mk (Int.natCast_inj.mp (hx (by omega) (by omega)))
      (Int.natCast_inj.mp (hy (by omega) (by omega)))
  rw [(overlaid_blit h).pixel_eq p hp, blitLayer, if_pos hreaches, Option.getD_some, hq]

theorem pixel_turnedAcross (hsrc : src.LiesIn source.size)
    (h : blit source old src.turnedAcross (src.movedTo x y) = .ok (t, log))
    (hp : old.contains p = true) (hreach : (src.movedTo x y).Reaches p)
    (hx : (q.x : Int) = min (src.x + src.width - (p.x - x)) (source.size.cols - 1))
    (hy : (q.y : Int) = src.y + (p.y - y)) :
    t.pixel p = source.format.carry old.format (source.pixel q) := by
  refine pixel_blit_movedTo h hsrc hp hreach ?_ ?_
  · intro h0 h1
    rw [hx]
    exact sourceCoord_turned h0 h1 hsrc.left hsrc.right
  · intro h0 h1
    rw [hy]
    exact sourceCoord_onward h0 h1 hsrc.top hsrc.bottom

theorem pixel_turnedDown (hsrc : src.LiesIn source.size)
    (h : blit source old src.turnedDown (src.movedTo x y) = .ok (t, log))
    (hp : old.contains p = true) (hreach : (src.movedTo x y).Reaches p)
    (hx : (q.x : Int) = src.x + (p.x - x))
    (hy : (q.y : Int) = min (src.y + src.height - (p.y - y)) (source.size.rows - 1)) :
    t.pixel p = source.format.carry old.format (source.pixel q) := by
  refine pixel_blit_movedTo h hsrc hp hreach ?_ ?_
  · intro h0 h1
    rw [hx]
    exact sourceCoord_onward h0 h1 hsrc.left hsrc.right
  · intro h0 h1
    rw [hy]
    exact sourceCoord_turned h0 h1 hsrc.top hsrc.bottom

end pixels

/-! ## Quads -/

section quads

variable {source old : Texture} {src : Rect} {op : PixelOp}

/-- **A rectangle that runs backwards from its last column is drawn as a mirror image.** -/
theorem mirrored_from_last_column (hop : PixelOp.between? source.format old.format = some op)
    (hsrc : src.LiesIn source.size) (x y : Int) :
    ∃ t log, blit source old src.mirroredAcross (src.movedTo x y) = .ok (t, log) ∧
      ∀ p q : Texel, old.contains p = true → (src.movedTo x y).Reaches p →
        (q.x : Int) = src.x + src.width - 1 - (p.x - x) → (q.y : Int) = src.y + (p.y - y) →
        t.pixel p = source.format.carry old.format (source.pixel q) := by
  obtain ⟨t, log, h⟩ := blit_eq_ok hop src.mirroredAcross (src.movedTo x y)
  refine ⟨t, log, h, fun p q hp hreach hx hy => ?_⟩
  refine pixel_blit_movedTo h hsrc hp hreach ?_ ?_
  · intro h0 h1
    rw [hx]
    exact sourceCoord_mirrored h0 h1 hsrc.left hsrc.right
  · intro h0 h1
    rw [hy]
    exact sourceCoord_onward h0 h1 hsrc.top hsrc.bottom

/-- **Swapped texture coordinates draw from one texel beyond the mirror image.** A quad whose source
rectangle keeps inside and is not scaled has its horizontal or its vertical texture coordinates
swapped. It then runs backwards from its far edge: across, offset `i` takes column `width - i` of
the rectangle where a mirror image takes `width - 1 - i`, or the last column of the source where
there is none further on; and so do the rows downwards. -/
theorem turned_quads_sampled (hop : PixelOp.between? source.format old.format = some op)
    (hsrc : src.LiesIn source.size) (x y : Int) :
    (∀ (p0 p3 : ScreenPoint Float32) (u0 v0 u3 v3 : Float32),
      QuadGeometry.ofCorners p0 p3 (u0, v0) (u3, v3) = .ok ⟨src, src.movedTo x y⟩ →
        QuadGeometry.ofCorners p0 p3 (u3, v0) (u0, v3) = .ok ⟨src.turnedAcross, src.movedTo x y⟩ ∧
        QuadGeometry.ofCorners p0 p3 (u0, v3) (u3, v0) = .ok ⟨src.turnedDown, src.movedTo x y⟩) ∧
    ∃ across down log log',
      blit source old src.turnedAcross (src.movedTo x y) = .ok (across, log) ∧
      blit source old src.turnedDown (src.movedTo x y) = .ok (down, log') ∧
      ∀ p q : Texel, old.contains p = true → (src.movedTo x y).Reaches p →
        ((q.x : Int) = min (src.x + src.width - (p.x - x)) (source.size.cols - 1) →
          (q.y : Int) = src.y + (p.y - y) →
          across.pixel p = source.format.carry old.format (source.pixel q)) ∧
        ((q.x : Int) = src.x + (p.x - x) →
          (q.y : Int) = min (src.y + src.height - (p.y - y)) (source.size.rows - 1) →
          down.pixel p = source.format.carry old.format (source.pixel q)) := by
  have hwidth : src.width ≠ Binary32.leastWord := by
    have hw := hsrc.width
    rw [Binary32.leastWord]
    omega
  have hheight : src.height ≠ Binary32.leastWord := by
    have hh := hsrc.height
    rw [Binary32.leastWord]
    omega
  obtain ⟨across, log, hacross⟩ := blit_eq_ok hop src.turnedAcross (src.movedTo x y)
  obtain ⟨down, log', hdown⟩ := blit_eq_ok hop src.turnedDown (src.movedTo x y)
  refine ⟨fun p0 p3 u0 v0 u3 v3 hquad => ⟨QuadGeometry.ofCorners_turnedAcross hquad hwidth,
      QuadGeometry.ofCorners_turnedDown hquad hheight⟩,
    across, down, log, log', hacross, hdown, fun p q hp hreach => ⟨?_, ?_⟩⟩
  · exact fun hx hy => pixel_turnedAcross hsrc hacross hp hreach hx hy
  · exact fun hx hy => pixel_turnedDown hsrc hdown hp hreach hx hy

end quads

/-- Red, green and blue, side by side. -/
def threeColors : Texture :=
  .ofBytes { size := ⟨3, 1⟩, format := .rgba } #[255, 0, 0, 255, 0, 255, 0, 255, 0, 0, 255, 255] rfl

def threeWhites : Texture :=
  .ofBytes { size := ⟨3, 1⟩, format := .rgba } (Array.replicate 12 255) rfl

/-- Turned across, the three come out as blue, blue and green. -/
theorem threeColors_turned :
    ∃ t log, blit threeColors threeWhites ⟨3, 0, -3, 1⟩ ⟨0, 0, 3, 1⟩ = .ok (t, log) ∧
      t.pixel ⟨0, 0⟩ = [0, 0, 255, 255] ∧ t.pixel ⟨1, 0⟩ = [0, 0, 255, 255] ∧
      t.pixel ⟨2, 0⟩ = [0, 255, 0, 255] := by
  obtain ⟨_, t, _, log, _, hblit, _, hpixel⟩ := @turned_quads_sampled threeColors threeWhites
    ⟨0, 0, 3, 1⟩ .keep rfl ⟨by decide, by decide, by decide, by decide, by decide, by decide⟩ 0 0
  refine ⟨t, log, hblit, ?_, ?_, ?_⟩
  · exact (hpixel ⟨0, 0⟩ ⟨2, 0⟩ rfl (by decide)).1 (by decide) rfl
  · exact (hpixel ⟨1, 0⟩ ⟨2, 0⟩ rfl (by decide)).1 (by decide) rfl
  · exact (hpixel ⟨2, 0⟩ ⟨1, 0⟩ rfl (by decide)).1 (by decide) rfl

/-- A device that is to draw the three colours onto white from right to left: of the four vertices
the first has the right edge of the image, the last has the left one. -/
def mirroring : Session where
  device := {
    context := {
      bindings := {
        vertexShader := some ⟨.known .defaultDraw .vertex, .vertex, "default.effect", ""⟩
        fragmentShader := some ⟨.known .defaultDraw .fragment, .fragment, "default.effect", ""⟩
        vertexBuffer := some ⟨.quad 0 0 3 1 3 0 (-3) 1, false⟩
        renderTarget := some ⟨0⟩ }
      params := { image := some ⟨1⟩, colorVecs := Vector.replicate 3 Vec4.zero }
      transforms :=
        { projection := ortho 0 3 0 1 (-100) 100, saved := [], modelView := Mat4.identity
          viewport := ⟨0, 0, 3, 1⟩ } } }
  memory := { textures := #[threeWhites, threeColors] }

/-- It takes blue twice and drops red, which a mirror image would end with. -/
theorem mirroring_repeats_a_column :
    mirroring.context.quad .triStrip 0 0 = .ok ⟨⟨3, 0, -3, 1⟩, ⟨0, 0, 3, 1⟩⟩ ∧
      (mirroring.step (.draw .triStrip 0 0)).answer = .ok .done ∧
      ∃ t, (mirroring.step (.draw .triStrip 0 0)).session.memory.texture ⟨0⟩ = t ∧
        t.pixel ⟨0, 0⟩ = threeColors.pixel ⟨2, 0⟩ ∧ t.pixel ⟨1, 0⟩ = threeColors.pixel ⟨2, 0⟩ ∧
        t.pixel ⟨2, 0⟩ ≠ threeColors.pixel ⟨0, 0⟩ :=
  ⟨by decide +kernel, by decide +kernel, _, rfl, by decide +kernel, by decide +kernel,
    by decide +kernel⟩

end BlitDevice
