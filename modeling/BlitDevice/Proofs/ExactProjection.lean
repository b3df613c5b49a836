import BlitDevice.Proofs.QuadShape

/-!
# Projections without rounding

Geometry is written for any numbers. Over fractions nothing is rounded, and it can be said where a
vertex lands.

* `Exact` — fractions, and what dividing by zero leaves.
* `Bounds.project_ortho` — a box covers the viewport, from its left edge to its right one and from
  its top to its bottom.
* `Bounds.project_frustum` — a frustum shows a vertex where the box shows it drawn onto the near
  plane.
* `project_combined` — the model-view moves vertices before they are projected.
* `ofDraw_quadOf` — a quad in whole pixels has the rectangles it was made of.
* `exact_projection` — all of it.
-/

set_option autoImplicit false

namespace BlitDevice

/-! ## Fractions -/

/-- A fraction, or what dividing by zero leaves. -/
inductive Exact where
  | undefined
  | of (q : ℚ)
  deriving DecidableEq

namespace Exact

/-- Without a value there is no result. -/
def lift (f : ℚ → ℚ → Exact) : Exact → Exact → Exact
  | of a, of b => f a b
  | _, _ => undefined

def neg : Exact → Exact
  | of a => of (-a)
  | undefined => undefined

/-- The nearest 64-bit whole number, halves away from zero. -/
def toWord : Exact → Int
  | of q => max (-2 ^ 63) (min (roundAway q) (2 ^ 63 - 1))
  | undefined => 0

instance : Scalar Exact where
  add := lift fun a b => of (a + b)
  sub := lift fun a b => of (a - b)
  mul := lift fun a b => of (a * b)
  div := lift fun a b => if b = 0 then undefined else of (a / b)
  neg := neg
  ofInt i := of i
  isFinite v := v ≠ undefined
  isZero v := v = of 0
  toWord := toWord

variable {a b : ℚ}

@[simp] theorem of_add_of : of a + of b = of (a + b) := rfl

@[simp] theorem of_sub_of : of a - of b = of (a - b) := rfl

@[simp] theorem of_mul_of : of a * of b = of (a * b) := rfl

@[simp] theorem neg_of : -of a = of (-a) := rfl

@[simp] theorem of_div_of (h : b ≠ 0) : of a / of b = of (a / b) := if_neg h

@[simp] theorem ofInt_eq (i : Int) : (Scalar.ofInt i : Exact) = of i := rfl

@[simp] theorem isFinite_of : Scalar.isFinite (of a) = true := rfl

@[simp] theorem isZero_of : Scalar.isZero (of a) = true ↔ a = 0 := by
  change decide (of a = of 0) = true ↔ a = 0
  rw [decide_eq_true_iff, of.injEq]

/-- Whole numbers that are words are not rounded. -/
theorem toWord_of_int {i : Int} (h : Word.i64.Holds i) : Scalar.toWord (of i) = i := by
  change max (-2 ^ 63) (min (roundAway i) (2 ^ 63 - 1)) = i
  have hhalf : ⌊(1 / 2 : ℚ)⌋ = 0 := by norm_num
  have hround : roundAway i = i := by
    rw [roundAway]
    split
    · rw [Int.floor_intCast_add, hhalf, add_zero]
    · rw [← Int.cast_neg, Int.floor_intCast_add, hhalf, add_zero, neg_neg]
  rw [Word.holds_i64] at h
  rw [hround]
  omega

end Exact

open Exact

/-- A place with these coordinates. -/
def Vec3.exact (v : Vec3 ℚ) : Vec3 Exact := ⟨of v.x, of v.y, of v.z⟩

def Vec4.exact (v : Vec4 ℚ) : Vec4 Exact := ⟨of v.x, of v.y, of v.z, of v.w⟩

theorem Vec4.isFinite_exact (v : Vec4 ℚ) : v.exact.isFinite = true := rfl

/-- The first three coordinates. -/
def Vec4.place {K : Type} (v : Vec4 K) : Vec3 K := ⟨v.x, v.y, v.z⟩

namespace Mat4

/-- The matrix with these entries. -/
def exact (m : Mat4 ℚ) : Mat4 Exact := ⟨m.xAxis.exact, m.yAxis.exact, m.zAxis.exact, m.wAxis.exact⟩

/-- Where a matrix takes a place. -/
def take (m : Mat4 ℚ) (v : Vec3 ℚ) : Vec4 ℚ where
  x := m.xAxis.x * v.x + m.yAxis.x * v.y + m.zAxis.x * v.z + m.wAxis.x
  y := m.xAxis.y * v.x + m.yAxis.y * v.y + m.zAxis.y * v.z + m.wAxis.y
  z := m.xAxis.z * v.x + m.yAxis.z * v.y + m.zAxis.z * v.z + m.wAxis.z
  w := m.xAxis.w * v.x + m.yAxis.w * v.y + m.zAxis.w * v.z + m.wAxis.w

theorem apply_exact (m : Mat4 ℚ) (v : Vec3 ℚ) :
    m.exact.apply (v.exact.extend (of 1)) = (m.take v).exact := by
  simp only [apply, exact, Vec4.exact, Vec3.exact, Vec3.extend, Vec4.scale, Vec4.add, of_add_of,
    of_mul_of, mul_one, take]

/-- The last row is that of a motion. -/
def IsAffine (m : Mat4 ℚ) : Prop :=
  m.xAxis.w = 0 ∧ m.yAxis.w = 0 ∧ m.zAxis.w = 0 ∧ m.wAxis.w = 1

end Mat4

/-! ## From clip positions to pixels -/

theorem one_eq : (Scalar.ofInt 1 : Exact) = of 1 := by rw [ofInt_eq, Int.cast_one]

theorem two_eq : (Scalar.ofInt 2 : Exact) = of 2 := by rw [ofInt_eq, Int.cast_ofNat]

section clip

variable {m : Mat4 ℚ} {v : Vec3 ℚ}

/-- The square from -1 to 1 covers the viewport, from the bottom upwards. -/
theorem project_exact (h : (m.take v).w ≠ 0) (viewport : Viewport) :
    project m.exact viewport v.exact =
      some ⟨of (((m.take v).x / (m.take v).w + 1) / 2 * viewport.width + viewport.x),
        of ((1 - ((m.take v).y / (m.take v).w + 1) / 2) * viewport.height + viewport.y)⟩ := by
  have hzero : ¬ Scalar.isZero (m.take v).exact.w = true := mt isZero_of.mp h
  unfold project
  simp only [one_eq, two_eq, m.apply_exact v, Vec4.isFinite_exact, Bool.not_true, Bool.false_or,
    hzero]
  simp [Vec4.exact, h]

/-- A vertex in the plane of the eye is not shown. -/
theorem project_exact_eq_none (h : (m.take v).w = 0) (viewport : Viewport) :
    project m.exact viewport v.exact = none := by
  have hzero : Scalar.isZero (m.take v).exact.w = true := isZero_of.mpr h
  unfold project
  simp only [one_eq, m.apply_exact v, hzero, Bool.or_true]
  rfl

end clip

/-! ## Boxes and frusta -/

/-- What is projected, from one plane to another in every direction. -/
structure Bounds where
  left : ℚ
  right : ℚ
  top : ℚ
  bottom : ℚ
  near : ℚ
  far : ℚ
  width_ne : left ≠ right
  height_ne : top ≠ bottom
  depth_ne : near ≠ far

namespace Bounds

variable (b : Bounds)

/-- The projection of the box. -/
def ortho : Mat4 Exact :=
  BlitDevice.ortho (of b.left) (of b.right) (of b.top) (of b.bottom) (of b.near) (of b.far)

/-- The projection of the frustum that has the edges on its near plane. -/
def frustum : Mat4 Exact :=
  BlitDevice.frustum (of b.left) (of b.right) (of b.top) (of b.bottom) (of b.near) (of b.far)

theorem right_sub_left : b.right - b.left ≠ 0 := sub_ne_zero.mpr b.width_ne.symm

theorem bottom_sub_top : b.bottom - b.top ≠ 0 := sub_ne_zero.mpr b.height_ne.symm

theorem top_sub_bottom : b.top - b.bottom ≠ 0 := sub_ne_zero.mpr b.height_ne

theorem far_sub_near : b.far - b.near ≠ 0 := sub_ne_zero.mpr b.depth_ne.symm

/-- Nothing is divided by zero. -/
theorem ortho_eq : b.ortho = Mat4.exact
    { xAxis := ⟨2 / (b.right - b.left), 0, 0, 0⟩
      yAxis := ⟨0, 2 / -(b.bottom - b.top), 0, 0⟩
      zAxis := ⟨0, 0, -2 / (b.far - b.near), 0⟩
      wAxis := ⟨(b.left + b.right) / -(b.right - b.left), (b.bottom + b.top) / (b.bottom - b.top),
        (b.far + b.near) / -(b.far - b.near), 1⟩ } := by
  have hw := b.right_sub_left
  have hh := b.bottom_sub_top
  have hd := b.far_sub_near
  simp only [ortho, BlitDevice.ortho, Mat4.exact, Vec4.exact, ofInt_eq, of_add_of, of_sub_of,
    neg_of, of_div_of hw, of_div_of hh, of_div_of hd, of_div_of (neg_ne_zero.mpr hw),
    of_div_of (neg_ne_zero.mpr hh), of_div_of (neg_ne_zero.mpr hd), Int.cast_zero, Int.cast_one,
    Int.cast_neg, Int.cast_ofNat]

theorem frustum_eq : b.frustum = Mat4.exact
    { xAxis := ⟨2 * b.near / (b.right - b.left), 0, 0, 0⟩
      yAxis := ⟨0, 2 * b.near / (b.top - b.bottom), 0, 0⟩
      zAxis := ⟨(b.left + b.right) / (b.right - b.left), (b.top + b.bottom) / (b.top - b.bottom),
        -(b.far + b.near) / (b.far - b.near), -1⟩
      wAxis := ⟨0, 0, -(2 * b.far * b.near) / (b.far - b.near), 0⟩ } := by
  have hw := b.right_sub_left
  have hh := b.top_sub_bottom
  have hd := b.far_sub_near
  simp only [frustum, BlitDevice.frustum, Mat4.exact, Vec4.exact, ofInt_eq, of_add_of, of_sub_of,
    of_mul_of, neg_of, of_div_of hw, of_div_of hh, of_div_of hd, Int.cast_zero, Int.cast_one,
    Int.cast_neg, Int.cast_ofNat]

/-- **A box covers the viewport**, from its left edge to its right one and from its top to its
bottom, however deep a vertex lies in it. -/
theorem project_ortho (viewport : Viewport) (x y z : ℚ) :
    project b.ortho viewport (Vec3.exact ⟨x, y, z⟩) =
      some ⟨of (viewport.x + viewport.width * (x - b.left) / (b.right - b.left)),
        of (viewport.y + viewport.height * (y - b.top) / (b.bottom - b.top))⟩ := by
  have hw := b.right_sub_left
  have hh := b.bottom_sub_top
  rw [ortho_eq, project_exact]
  · simp only [Mat4.take]
    congr 3
    · field_simp
      ring
    · field_simp
      ring
  · norm_num [Mat4.take]

/-- **A frustum shows a vertex where the box shows it** once it is drawn onto the near plane along
the line to the eye. -/
theorem project_frustum (viewport : Viewport) (x y : ℚ) {z : ℚ} (hz : z ≠ 0) :
    project b.frustum viewport (Vec3.exact ⟨x, y, z⟩) =
      project b.ortho viewport (Vec3.exact ⟨x * b.near / -z, y * b.near / -z, z⟩) := by
  have hwidth := b.right_sub_left
  have hheight := b.bottom_sub_top
  have hw (x' y' : ℚ) : 0 * x' + 0 * y' + -1 * z + 0 = -z := by ring
  rw [project_ortho, frustum_eq, project_exact]
  · simp only [Mat4.take, hw]
    congr 3
    · field_simp
      ring
    · rw [← neg_sub b.bottom b.top]
      field_simp
      ring
  · rw [Mat4.take, hw]
    exact neg_ne_zero.mpr hz

/-- A vertex beside the eye is shown nowhere. -/
theorem project_frustum_eq_none (viewport : Viewport) (x y : ℚ) :
    project b.frustum viewport (Vec3.exact ⟨x, y, 0⟩) = none := by
  rw [frustum_eq]
  apply project_exact_eq_none
  norm_num [Mat4.take]

end Bounds

/-! ## Model-views -/

/-- A row of a product with a motion, at a place. -/
theorem row_combined (a b c d : Exact) {m : Mat4 ℚ} (hm : m.IsAffine) (v : Vec3 ℚ) :
    (a * of m.xAxis.x + b * of m.xAxis.y + c * of m.xAxis.z + d * of m.xAxis.w) * of v.x +
        (a * of m.yAxis.x + b * of m.yAxis.y + c * of m.yAxis.z + d * of m.yAxis.w) * of v.y +
        (a * of m.zAxis.x + b * of m.zAxis.y + c * of m.zAxis.z + d * of m.zAxis.w) * of v.z +
        (a * of m.wAxis.x + b * of m.wAxis.y + c * of m.wAxis.z + d * of m.wAxis.w) * of 1 =
      a * of (m.take v).x + b * of (m.take v).y + c * of (m.take v).z + d * of 1 := by
  obtain ⟨hx, hy, hz, hw⟩ := hm
  rw [hx, hy, hz, hw]
  -- An entry without a value goes into both.
  cases a with
  | undefined => rfl
  | of a =>
    cases b with
    | undefined => rfl
    | of b =>
      cases c with
      | undefined => rfl
      | of c =>
        cases d with
        | undefined => rfl
        | of d =>
          simp only [of_mul_of, of_add_of, Mat4.take]
          congr 1
          ring

/-- What comes after a motion may be done after it. -/
theorem apply_mul_exact (p : Mat4 Exact) {m : Mat4 ℚ} (hm : m.IsAffine) (v : Vec3 ℚ) :
    (p.mul m.exact).apply (v.exact.extend (of 1)) =
      p.apply ((m.take v).exact.place.extend (of 1)) := by
  have hrow (a b c d : Exact) := row_combined a b c d hm v
  show Vec4.mk _ _ _ _ = Vec4.mk _ _ _ _
  rw [Vec4.mk.injEq]
  exact ⟨hrow _ _ _ _, hrow _ _ _ _, hrow _ _ _ _, hrow _ _ _ _⟩

/-- The clip position is all that a projection depends on. -/
theorem project_congr {K : Type} [Scalar K] {m m' : Mat4 K} {v v' : Vec3 K}
    (h : m.apply (v.extend (Scalar.ofInt 1)) = m'.apply (v'.extend (Scalar.ofInt 1)))
    (viewport : Viewport) : project m viewport v = project m' viewport v' := by
  simp only [project, h]

/-- **The model-view moves vertices** before they are projected. -/
theorem project_combined {t : Transforms Exact} {m : Mat4 ℚ} (hm : m.IsAffine)
    (ht : t.modelView = m.exact) (viewport : Viewport) (v : Vec3 ℚ) :
    project t.combined viewport v.exact =
      project t.projection viewport
        (t.modelView.apply (v.exact.extend (Scalar.ofInt 1))).place := by
  apply project_congr
  rw [Transforms.combined, ht, one_eq, apply_mul_exact _ hm, m.apply_exact]

/-! ## Quads -/

/-- Where the rectangle starts, how far it goes and where it ends are all 64-bit whole numbers. -/
structure Rect.EndsInRange (r : Rect) : Prop where
  fields : r.InRange
  right : Word.i64.Holds (r.x + r.width)
  bottom : Word.i64.Holds (r.y + r.height)

/-- A side between two places in whole pixels. -/
theorem span_exact {start extent : Int} (side : RectSide) (h : Word.i64.Holds start)
    (hextent : Word.i64.Holds extent) (hend : Word.i64.Holds (start + extent)) :
    span side (of start) (of (start + extent)) = .ok (start, extent) := by
  rw [Word.holds_i64] at hextent
  refine span_eq_ok_iff.mpr ⟨(toWord_of_int h).symm, ?_, ?_⟩
  · rw [← Int.cast_add, toWord_of_int hend, toWord_of_int h, add_sub_cancel_left]
  · simp only [Binary32.leastWord, Binary32.greatestWord]
    omega

/-- The identity is no motion at all. -/
theorem identity_eq : (Mat4.identity : Mat4 Exact) =
    Mat4.exact ⟨⟨1, 0, 0, 0⟩, ⟨0, 1, 0, 0⟩, ⟨0, 0, 1, 0⟩, ⟨0, 0, 0, 1⟩⟩ := by
  simp only [Mat4.identity, Mat4.exact, Vec4.exact, ofInt_eq, Int.cast_zero, Int.cast_one]

theorem project_combined_identity {t : Transforms Exact} (ht : t.modelView = Mat4.identity)
    (viewport : Viewport) (v : Vec3 ℚ) :
    project t.combined viewport v.exact = project t.projection viewport v.exact := by
  rw [identity_eq] at ht
  rw [project_combined ⟨rfl, rfl, rfl, rfl⟩ ht, ht, one_eq, Mat4.apply_exact]
  simp only [Mat4.take, zero_mul, one_mul, add_zero, zero_add]
  rfl

/-- The box that a target of this size is drawn in, from its top left. -/
def Bounds.pixels (width height : Int) (near far : ℚ) (hw : 1 ≤ width) (hh : 1 ≤ height)
    (hd : near ≠ far) : Bounds where
  left := 0
  right := width
  top := 0
  bottom := height
  near := near
  far := far
  width_ne := by
    rw [ne_comm, ne_eq, Int.cast_eq_zero]
    omega
  height_ne := by
    rw [ne_comm, ne_eq, Int.cast_eq_zero]
    omega
  depth_ne := hd

/-- In it every vertex lands where it says. -/
theorem Bounds.project_pixels {width height : Int} {near far : ℚ} (hw : 1 ≤ width)
    (hh : 1 ≤ height) (hd : near ≠ far) (x y z : ℚ) :
    project (pixels width height near far hw hh hd).ortho ⟨0, 0, width, height⟩
      (Vec3.exact ⟨x, y, z⟩) = some ⟨of x, of y⟩ := by
  have hwidth := (pixels width height near far hw hh hd).right_sub_left
  have hheight := (pixels width height near far hw hh hd).bottom_sub_top
  rw [project_ortho]
  simp only [pixels] at hwidth hheight ⊢
  rw [sub_zero] at hwidth hheight
  congr 3
  · field_simp
    ring
  · field_simp
    ring

/-- A rectangle of the screen showing a rectangle of the source, in whole pixels. -/
def quadOf (src dst : Rect) : VertexData Exact :=
  VertexData.quad (Scalar.ofInt dst.x) (Scalar.ofInt dst.y) (Scalar.ofInt dst.width)
    (Scalar.ofInt dst.height) (Scalar.ofInt src.x) (Scalar.ofInt src.y) (Scalar.ofInt src.width)
    (Scalar.ofInt src.height)

/-- It is a strip of four points with a channel of pairs. -/
theorem corners_quadOf (src dst : Rect) {count : UInt32} (hcount : count = 0 ∨ count = 4) :
    QuadGeometry.corners (quadOf src dst) .triStrip 0 count =
      .ok ((Vec3.exact ⟨dst.x, dst.y, 0⟩, Vec3.exact ⟨dst.x + dst.width, dst.y + dst.height, 0⟩),
        (of src.x, of src.y), (of (src.x + src.width), of (src.y + src.height))) := by
  have hall : drawsAll 0 count = true := drawsAll_iff.mpr ⟨rfl, hcount⟩
  unfold QuadGeometry.corners
  simp only [quadOf, VertexData.quad, TexCoordChannel.uv, ofInt_eq, of_add_of, hall, Int.cast_zero]
  rfl

/-- **A quad in whole pixels has the rectangles it was made of.** -/
theorem ofDraw_quadOf {src dst : Rect} (hsrc : src.EndsInRange) (hdst : dst.EndsInRange)
    {t : Transforms Exact}
    (hland : ∀ v : Vec3 ℚ, project t.combined t.viewport v.exact = some ⟨of v.x, of v.y⟩)
    (dynamic : Bool) {count : UInt32} (hcount : count = 0 ∨ count = 4) :
    QuadGeometry.ofDraw (some ⟨quadOf src dst, dynamic⟩) t .triStrip 0 count =
      .ok ⟨src, dst⟩ := by
  have hcorner (index : Nat) (v : Vec3 ℚ) : corner t index v.exact = .ok ⟨of v.x, of v.y⟩ := by
    rw [corner, hland]
  obtain ⟨hu, hv, huw, hvh⟩ := hsrc.fields.holds
  obtain ⟨hx, hy, hw, hh⟩ := hdst.fields.holds
  unfold QuadGeometry.ofDraw
  dsimp only
  rw [corners_quadOf src dst hcount, ok_bind, hcorner, ok_bind, hcorner, ok_bind,
    QuadGeometry.ofCorners]
  dsimp only
  rw [span_exact _ hx hw hdst.right, ok_bind, span_exact _ hy hh hdst.bottom, ok_bind,
    span_exact _ hu huw hsrc.right, ok_bind, span_exact _ hv hvh hsrc.bottom]
  rfl

/-- **Projections over fractions.** Whatever its six planes, a box takes its left and right edge to
those of the viewport and its top and bottom likewise, and depth does not matter. A frustum shows a
vertex where the box with the same planes shows it drawn onto the near plane along the line to the
eye, and one beside the eye nowhere. Whatever the projection, a model-view moves vertices before
they are projected. So in the box of a target's pixels a quad in whole pixels has the rectangles it
was made of. -/
theorem exact_projection :
    (∀ (b : Bounds) (viewport : Viewport) (x y z : ℚ),
      project b.ortho viewport ⟨of x, of y, of z⟩ =
        some ⟨of (viewport.x + viewport.width * (x - b.left) / (b.right - b.left)),
          of (viewport.y + viewport.height * (y - b.top) / (b.bottom - b.top))⟩) ∧
    (∀ (b : Bounds) (viewport : Viewport) (x y z : ℚ), z ≠ 0 →
      project b.frustum viewport ⟨of x, of y, of z⟩ =
        project b.ortho viewport ⟨of (x * b.near / -z), of (y * b.near / -z), of z⟩) ∧
    (∀ (b : Bounds) (viewport : Viewport) (x y : ℚ),
      project b.frustum viewport ⟨of x, of y, of 0⟩ = none) ∧
    (∀ (t : Transforms Exact) (m : Mat4 ℚ) (viewport : Viewport) (v : Vec3 ℚ),
      t.modelView = m.exact → m.IsAffine →
        project t.combined viewport v.exact =
          project t.projection viewport
            (t.modelView.apply (v.exact.extend (Scalar.ofInt 1))).place) ∧
    ∀ (width height : Int) (near far : ℚ) (saved : List (Mat4 Exact)) (src dst : Rect)
      (dynamic : Bool) (count : UInt32), 1 ≤ width → 1 ≤ height → near ≠ far →
      src.EndsInRange → dst.EndsInRange → count = 0 ∨ count = 4 →
        QuadGeometry.ofDraw (some ⟨quadOf src dst, dynamic⟩)
          { projection := ortho (Scalar.ofInt 0) (Scalar.ofInt width) (Scalar.ofInt 0)
              (Scalar.ofInt height) (of near) (of far)
            saved, modelView := Mat4.identity, viewport := ⟨0, 0, width, height⟩ }
          .triStrip 0 count = .ok ⟨src, dst⟩ := by
  refine ⟨fun b => b.project_ortho, fun b viewport x y z => b.project_frustum viewport x y,
    fun b => b.project_frustum_eq_none, ?_, ?_⟩
  · intro t m viewport v ht hm
    exact project_combined hm ht viewport v
  · intro width height near far saved src dst dynamic count hw hh hd hsrc hdst hcount
    apply ofDraw_quadOf hsrc hdst _ dynamic hcount
    intro v
    rw [project_combined_identity rfl]
    have hpixels := Bounds.project_pixels hw hh hd v.x v.y v.z
    exact hpixels

/-- From 0 to 4 across and from 0 to 2 down: the eye looks along an edge. -/
def offAxis : Bounds where
  left := 0
  right := 4
  top := 0
  bottom := 2
  near := 1
  far := 10
  width_ne := by norm_num
  height_ne := by norm_num
  depth_ne := by norm_num

/-- One to the right. -/
def sideStep : Mat4 ℚ := ⟨⟨1, 0, 0, 0⟩, ⟨0, 1, 0, 0⟩, ⟨0, 0, 1, 0⟩, ⟨1, 0, 0, 1⟩⟩

/-- Twice as far off as the near plane, a vertex is shown half as far from the edges; one that is
moved first is shown where it was moved to. A mirrored quad keeps its rectangles. -/
theorem offAxis_projected :
    project offAxis.frustum ⟨0, 0, 8, 4⟩ ⟨of 4, of 2, of (-2)⟩ = some ⟨of 4, of 2⟩ ∧
      project (Transforms.combined ⟨offAxis.ortho, [], sideStep.exact, ⟨0, 0, 8, 4⟩⟩) ⟨0, 0, 8, 4⟩
        (Vec3.exact ⟨1, 1, 5⟩) = some ⟨of 4, of 2⟩ ∧
      QuadGeometry.ofDraw (some ⟨quadOf ⟨3, 0, -3, 1⟩ ⟨0, 0, 3, 1⟩, false⟩)
        { projection := ortho (Scalar.ofInt 0) (Scalar.ofInt 3) (Scalar.ofInt 0) (Scalar.ofInt 1)
            (of (-100)) (of 100)
          saved := [], modelView := Mat4.identity, viewport := ⟨0, 0, 3, 1⟩ }
        .triStrip 0 4 = .ok ⟨⟨3, 0, -3, 1⟩, ⟨0, 0, 3, 1⟩⟩ := by
  obtain ⟨hortho, hfrustum, _, hcombined, hquad⟩ := exact_projection
  have hinside {x y width height : Int} (h : ∀ v ∈ [x, y, width, height, x + width, y + height],
      Word.i64.Holds v) : Rect.EndsInRange ⟨x, y, width, height⟩ := by
    simp only [List.forall_mem_cons, Word.holds_i64] at h
    exact ⟨Rect.inRange_of_bounds h.1 h.2.1 h.2.2.1 h.2.2.2.1,
      Word.holds_i64.mpr h.2.2.2.2.1, Word.holds_i64.mpr h.2.2.2.2.2.1⟩
  refine ⟨?_, ?_, ?_⟩
  · rw [hfrustum _ _ _ _ _ (by norm_num), hortho]
    norm_num [offAxis]
  · rw [hcombined _ sideStep _ _ rfl ⟨rfl, rfl, rfl, rfl⟩, one_eq, Mat4.apply_exact]
    refine (hortho offAxis _ _ _ _).trans ?_
    norm_num [offAxis, sideStep, Mat4.take]
  · exact hquad 3 1 (-100) 100 [] _ _ false 4 (by norm_num) (by norm_num) (by norm_num)
      (hinside (by decide)) (hinside (by decide)) (.inr rfl)

end BlitDevice
