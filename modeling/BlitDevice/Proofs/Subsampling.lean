import BlitDevice.Proofs.Addressing
import BlitDevice.Proofs.Layers

/-!
# Planes from every so many pixels

A loop over a plane has each pixel edited, beside the source pixel at a multiple of its coordinates.

* `PixelEdit` — an operation that edits a pixel where it stands, with effects of its own.
* `editPlane` — the loop, on words, with every slice checked; `editInOrder` goes over given pixels
  in a given order.
* `editPlane_eq`, `editInOrder_eq` — a loop comes to one call of the operation for each pixel, each
  on the bytes that were there before the loop; only the operation can stop it.
* `PixelEdit.ofRule` — an operation that does nothing but compute; `editInOrder_ofRule` says that in
  whatever order it comes to `convertPlane`.
* `planes_subsampled` — all of it.
-/

set_option autoImplicit false

namespace BlitDevice

/-! ## Loops in loops -/

/-- A loop whose rounds are loops is one loop. -/
theorem foldlM_eq_flatMap {α β ι : Type} {m : Type → Type} [Monad m] [LawfulMonad m]
    {f : β → ι → m β} {g : β → α → m β} {inner : ι → List α} (is : List ι)
    (round : ∀ i ∈ is, ∀ b, f b i = (inner i).foldlM g b) (b : β) :
    is.foldlM f b = (is.flatMap inner).foldlM g b := by
  induction is generalizing b with
  | nil => rfl
  | cons i is ih =>
    rw [List.foldlM_cons, List.flatMap_cons, List.foldlM_append, round i List.mem_cons_self]
    exact bind_congr fun b' => ih (fun j hj => round j (List.mem_cons_of_mem _ hj)) b'

/-! ## Operations -/

/-- The texel of a source that stands for a texel of a plane. -/
def Texel.times (p : Texel) (divisor : Nat) : Texel := ⟨p.x * divisor, p.y * divisor⟩

/-- An operation on a pixel, beside a pixel of a source, with effects of its own. It gets the bytes
of the pixel to edit them where they stand, so it leaves as many. -/
abbrev PixelEdit (m : Type → Type) :=
  (old : List UInt8) → List UInt8 → m { px : List UInt8 // px.length = old.length }

section Monad

variable {m : Type → Type} [Monad m]

/-- The call for a pixel, on the bytes that a plane has there, and the write that comes of it. -/
def PixelEdit.call (op : PixelEdit m) (src dst : Texture) (divisor : Nat) (p : Texel) :
    m PixelAccess := do
  let px ← op (dst.pixel p) (src.pixel (p.times divisor))
  return .write p px

/-- Has the pixel at `(x, y)` edited beside the pixel at `(sx, sy)` of the source. -/
def editPixel (op : PixelEdit m) (src : Texture) (srcLayout dstLayout : Layout) (sx sy x y : Int)
    (t : Texture) : ExceptT Fault m Texture := do
  let into ← liftM (pixelRange dstLayout x y)
  let source ← liftM (pixelRange srcLayout sx sy)
  let old ← liftM (sliceOf t dstLayout into)
  let new ← liftM (sliceOf src srcLayout source)
  let px ← liftM (op old new)
  return t.withBytes (t.bytes.overwrite into.1.toNat px) (Bytes.size_overwrite _ _ _)

/-- Has one row of a plane edited, beside every `divisor`-th pixel of a row of the source. -/
def editRow (op : PixelEdit m) (src : Texture) (srcLayout dstLayout : Layout) (divisor cols : Int)
    (t : Texture) (y : Int) : ExceptT Fault m Texture := do
  let sy ← liftM (Word.u64.hold (y * divisor))
  (wholeNumbers 0 cols).foldlM (fun t x => do
    let sx ← liftM (Word.u64.hold (x * divisor))
    editPixel op src srcLayout dstLayout sx sy x y t) t

/-- Has every pixel of a plane edited, beside the source pixel at `divisor` times its
coordinates. -/
def editPlane (op : PixelEdit m) (src : Texture) (divisor : Int) (dst : Texture) :
    ExceptT Fault m Texture := do
  let srcLayout ← liftM (layoutOf src)
  let dstLayout ← liftM (layoutOf dst)
  (wholeNumbers 0 dst.size.rows).foldlM
    (editRow op src srcLayout dstLayout divisor dst.size.cols) dst

/-- Has the given pixels of a plane edited, one after the other. -/
def editInOrder (op : PixelEdit m) (src : Texture) (divisor : Int) (ps : List Texel)
    (dst : Texture) : ExceptT Fault m Texture := do
  let srcLayout ← liftM (layoutOf src)
  let dstLayout ← liftM (layoutOf dst)
  ps.foldlM (fun t p => do
    let sy ← liftM (Word.u64.hold (p.y * divisor))
    let sx ← liftM (Word.u64.hold (p.x * divisor))
    editPixel op src srcLayout dstLayout sx sy p.x p.y t) dst

end Monad

/-! ## One call for each pixel -/

section LawfulMonad

variable {m : Type → Type} [Monad m] [LawfulMonad m] {op : PixelEdit m} {src dst t : Texture}
  {divisor : Nat} {p : Texel}

/-- What words come to is gone on with. -/
theorem liftM_bind_of_ok {α β : Type} {c : Checked α} {a : α} (h : c = .ok a)
    (f : α → ExceptT Fault m β) : (liftM c : ExceptT Fault m α) >>= f = f a := by
  rw [h]
  exact pure_bind a f

/-- The round of a loop over the pixels of a plane, with all addresses found. -/
def editTexel (op : PixelEdit m) (src dst : Texture) (divisor : Nat) (t : Texture) (p : Texel) :
    ExceptT Fault m Texture :=
  let q := p.times divisor
  editPixel op src (Layout.of src) (Layout.of dst) q.x q.y p.x p.y t

/-- **One round**: the operation is called on the bytes of the pixel and of the source pixel, and
what it leaves is the pixel. -/
theorem editTexel_eq (ht : t.config = dst.config) (hp : dst.contains p = true)
    (hq : src.contains (p.times divisor) = true) :
    editTexel op src dst divisor t p = do
      let px ← liftM (op (t.pixel p) (src.pixel (p.times divisor)))
      return t.access (.write p px) := by
  have hp' : t.contains p = true := (Texture.contains_of_config ht p).trans hp
  rw [editTexel, editPixel, ← Canvas.layout_eq ht, liftM_bind_of_ok (pixelRange_eq hp'),
    liftM_bind_of_ok (pixelRange_eq hq), liftM_bind_of_ok (sliceOf_eq hp'),
    liftM_bind_of_ok (sliceOf_eq hq)]
  refine bind_congr fun px => ?_
  have hpx : px.val.length = t.bytesPerPixel := px.property.trans (Texture.length_pixel hp')
  rw [Texture.access_write, Texture.set?_eq_some hp' hpx]
  rfl

/-- Rounds over pixels that are all different are calls on what was there before the first of
them. -/
theorem foldlM_editTexel (hsrc : ∀ p, dst.contains p = true → src.contains (p.times divisor) = true)
    (ps : List Texel) (hps : ∀ p ∈ ps, dst.contains p = true) (hnodup : ps.Nodup) :
    ∀ t : Texture, t.config = dst.config → (∀ p ∈ ps, t.pixel p = dst.pixel p) →
      ps.foldlM (editTexel op src dst divisor) t = do
        let writes ← liftM (ps.mapM (op.call src dst divisor))
        return t.accessAll writes := by
  induction ps with
  | nil =>
    intro t _ _
    rw [List.mapM_nil, liftM_pure, pure_bind]
    rfl
  | cons p ps ih =>
    intro t ht hsame
    obtain ⟨hp, hps'⟩ := List.forall_mem_cons.mp hps
    obtain ⟨hpixel, hsame'⟩ := List.forall_mem_cons.mp hsame
    obtain ⟨hnew, hnodup'⟩ := List.nodup_cons.mp hnodup
    rw [List.foldlM_cons, editTexel_eq ht hp (hsrc p hp), hpixel, List.mapM_cons]
    simp only [PixelEdit.call, liftM_bind, liftM_pure, bind_assoc, pure_bind]
    refine bind_congr fun px => ?_
    -- The pixels still to come are not the one that was written.
    have hrest : ∀ q ∈ ps, (t.access (.write p px)).pixel q = dst.pixel q := by
      intro q hq
      have hq' : t.contains q = true := (Texture.contains_of_config ht q).trans (hps' q hq)
      have hother : ¬ (p = q ∧ px.val.length = t.bytesPerPixel) := fun h => hnew (h.1 ▸ hq)
      rw [Texture.pixel_access _ hq', Texture.written?, if_neg hother, Option.getD_none,
        hsame' q hq]
    have hconfig : (t.access (.write p px)).config = dst.config :=
      (t.repainted_access _).config_eq.trans ht
    rw [ih hps' hnodup' _ hconfig hrest]
    rfl

section loops

variable (hd : divisor < 2 ^ 32)
  (hsrc : ∀ p, dst.contains p = true → src.contains (p.times divisor) = true)

include hd hsrc

/-- **The loop in a given order** comes to one call for each of the pixels, in that order. -/
theorem editInOrder_eq {ps : List Texel} (hps : ps.Perm (Window.covering dst.size).texels) :
    editInOrder op src divisor ps dst = do
      let writes ← liftM (ps.mapM (op.call src dst divisor))
      return dst.accessAll writes := by
  have hin : ∀ p ∈ ps, dst.contains p = true := fun p hp =>
    Texture.mem_covering.mp (hps.mem_iff.mp hp)
  have hnodup : ps.Nodup := hps.nodup_iff.mpr (Window.nodup_texels _)
  have hround : ∀ p ∈ ps, ∀ t, (do
      let sy ← liftM (Word.u64.hold (p.y * divisor))
      let sx ← liftM (Word.u64.hold (p.x * divisor))
      editPixel op src (Layout.of src) (Layout.of dst) sx sy p.x p.y t) =
      [p].foldlM (editTexel op src dst divisor) t := by
    intro p hp t
    obtain ⟨hx, hy⟩ := Texture.contains_iff.mp (hin p hp)
    rw [liftM_bind_of_ok (Canvas.hold_mul hy dst.size.rows_lt hd),
      liftM_bind_of_ok (Canvas.hold_mul hx dst.size.cols_lt hd), List.foldlM_cons]
    exact (bind_pure _).symm
  rw [editInOrder, liftM_bind_of_ok (layoutOf_eq src), liftM_bind_of_ok (layoutOf_eq dst),
    foldlM_eq_flatMap ps hround, List.flatMap_singleton']
  exact foldlM_editTexel hsrc ps hin hnodup dst rfl fun _ _ => rfl

/-- **The loop over a plane** comes to one call for each pixel, row by row. -/
theorem editPlane_eq :
    editPlane op src divisor dst = do
      let writes ← liftM ((Window.covering dst.size).texels.mapM (op.call src dst divisor))
      return dst.accessAll writes := by
  have hcolumn : ∀ y < dst.size.rows, ∀ x ∈ List.range dst.size.cols, ∀ t, (do
      let sx ← liftM (Word.u64.hold ((x : Int) * divisor))
      editPixel op src (Layout.of src) (Layout.of dst) sx ((y * divisor : Nat) : Int) x y t) =
      [Texel.mk x y].foldlM (editTexel op src dst divisor) t := by
    intro y _ x hx t
    rw [liftM_bind_of_ok (Canvas.hold_mul (List.mem_range.mp hx) dst.size.cols_lt hd),
      List.foldlM_cons]
    exact (bind_pure _).symm
  have hrow : ∀ y ∈ List.range dst.size.rows, ∀ t,
      editRow op src (Layout.of src) (Layout.of dst) divisor dst.size.cols t y =
        ((List.range dst.size.cols).map fun x => ⟨x, y⟩).foldlM (editTexel op src dst divisor) t := by
    intro y hy t
    have hy' := List.mem_range.mp hy
    rw [editRow, liftM_bind_of_ok (Canvas.hold_mul hy' dst.size.rows_lt hd), wholeNumbers_zero,
      List.foldlM_map, List.map_eq_flatMap]
    exact foldlM_eq_flatMap _ (hcolumn y hy') t
  rw [editPlane, liftM_bind_of_ok (layoutOf_eq src), liftM_bind_of_ok (layoutOf_eq dst),
    wholeNumbers_zero, List.foldlM_map, foldlM_eq_flatMap _ hrow, ← Window.texels_covering]
  exact foldlM_editTexel hsrc _ (fun _ => Texture.mem_covering.mp) (Window.nodup_texels _) dst rfl
    fun _ _ => rfl

end loops

end LawfulMonad

/-! ## Operations that compute -/

/-- What bytes become when others are written over them, from the first one on. Others that would
stand past the end are dropped. -/
def overwritten (old new : List UInt8) : List UInt8 := new.take old.length ++ old.drop new.length

theorem length_overwritten (old new : List UInt8) : (overwritten old new).length = old.length := by
  rw [overwritten, List.length_append, List.length_take, List.length_drop]
  omega

theorem getElem?_overwritten {old new : List UInt8} {k : Nat} (hk : k < old.length) :
    (overwritten old new)[k]? = if k < new.length then new[k]? else old[k]? := by
  have htaken : (new.take old.length).length = min old.length new.length := List.length_take
  rw [overwritten]
  split
  · rename_i hnew
    rw [List.getElem?_append_left (by omega), List.getElem?_take_of_lt hk]
  · rename_i hnew
    rw [List.getElem?_append_right (by omega), List.getElem?_drop]
    congr 1
    omega

/-- As many bytes as there were stand in their place. -/
theorem overwritten_of_length {old new : List UInt8} (h : new.length = old.length) :
    overwritten old new = new := by
  rw [overwritten, ← h, List.take_length, h, List.drop_length, List.append_nil]

/-- What a rule makes of a pixel of a plane. -/
def subsampledPixel (src dst : Texture) (divisor : Nat) (f : List UInt8 → List UInt8 → List UInt8)
    (p : Texel) : List UInt8 :=
  overwritten (dst.pixel p) (f (dst.pixel p) (src.pixel (p.times divisor)))

/-- An operation that writes what a rule gives over the pixel, and has no effect besides. -/
def PixelEdit.ofRule {m : Type → Type} [Monad m] (f : List UInt8 → List UInt8 → List UInt8) :
    PixelEdit m :=
  fun old new => pure ⟨overwritten old (f old new), length_overwritten _ _⟩

namespace Texture

variable {src dst t : Texture} {divisor : Nat} {f : List UInt8 → List UInt8 → List UInt8}
  {p : Texel}

/-- Painting writes over a pixel and never past it. -/
theorem paintTexel_overwritten (t : Texture) (f : Texel → List UInt8 → List UInt8) :
    t.paintTexel f = t.paintTexel fun p old => overwritten old (f p old) := by
  funext b p
  apply Array.ext_getElem?
  intro i
  have hlength := Bytes.length_slice b (t.offset p) t.bytesPerPixel
  simp only [paintTexel, Bytes.getElem?_overwrite, List.length_take, length_overwritten]
  by_cases hi : t.offset p ≤ i ∧ i < t.offset p + t.bytesPerPixel ∧ i < b.size
  · have hpixel : i - t.offset p < t.bytesPerPixel := by omega
    have hinside : i - t.offset p < (b.slice (t.offset p) t.bytesPerPixel).length := by omega
    have hwritten : t.offset p ≤ i ∧ i < t.offset p +
        min t.bytesPerPixel (b.slice (t.offset p) t.bytesPerPixel).length ∧ i < b.size := by omega
    rw [if_pos hwritten, List.getElem?_take_of_lt hpixel, List.getElem?_take_of_lt hpixel,
      getElem?_overwritten hinside, Bytes.getElem?_slice, if_pos hpixel, Nat.add_sub_cancel' hi.1]
    exact if_congr (by omega) rfl rfl
  · rw [if_neg (by omega), if_neg (by omega)]

theorem pixel_convertPlane (hp : dst.contains p = true) :
    (convertPlane src dst divisor f).pixel p = subsampledPixel src dst divisor f p := by
  have hkeeps : dst.KeepsLength fun p old =>
      overwritten old (f old (src.pixel ⟨p.x * divisor, p.y * divisor⟩)) := by
    intro p old hold
    rw [length_overwritten, hold]
  have hpaint : convertPlane src dst divisor f = dst.paint (Window.covering dst.size) fun p old =>
      overwritten old (f old (src.pixel ⟨p.x * divisor, p.y * divisor⟩)) := by
    rw [convertPlane, paint_eq, paint_eq]
    congr 2
    exact dst.paintTexel_overwritten _
  rw [hpaint, pixel_paint hkeeps (fun _ => mem_covering.mp) hp, if_pos (mem_covering.mpr hp)]
  rfl

/-- After each of some pixels is written, one that is among them is what was written there. -/
theorem pixel_accessAll_writes {rule : Texel → List UInt8} {ps : List Texel} (hps : p ∈ ps)
    (hp : t.contains p = true) (hrule : (rule p).length = t.bytesPerPixel) :
    (t.accessAll (ps.map fun q => .write q (rule q))).pixel p = rule p := by
  have hwritten : ∀ px, px ∈ (ps.map fun q => PixelAccess.write q (rule q)).filterMap
      (t.written? p) ↔ px = rule p := by
    intro px
    simp only [List.filterMap_map, List.mem_filterMap, Function.comp_apply, written?,
      Option.ite_none_right_eq_some, Option.some.injEq]
    constructor
    · rintro ⟨q, _, ⟨rfl, _⟩, rfl⟩
      rfl
    · rintro rfl
      exact ⟨p, hps, ⟨rfl, hrule⟩, rfl⟩
  rw [pixel_accessAll _ hp]
  cases hlast : ((ps.map fun q => PixelAccess.write q (rule q)).filterMap
      (t.written? p)).getLast? with
  | none =>
    rw [List.getLast?_eq_none_iff] at hlast
    have hmem := (hwritten (rule p)).mpr rfl
    rw [hlast] at hmem
    cases hmem
  | some px => exact (hwritten px).mp (List.mem_of_getLast? hlast)

/-- Each pixel of a plane written once, in whatever order, is the plane. -/
theorem accessAll_subsampledPixel {ps : List Texel}
    (hps : ps.Perm (Window.covering dst.size).texels) :
    dst.accessAll (ps.map fun p => .write p (subsampledPixel src dst divisor f p)) =
      convertPlane src dst divisor f := by
  refine (dst.repainted_accessAll _).ext (repainted_paint fun _ => mem_covering.mp) fun p hp => ?_
  have hlength : (subsampledPixel src dst divisor f p).length = dst.bytesPerPixel := by
    rw [subsampledPixel, length_overwritten, length_pixel hp]
  rw [pixel_accessAll_writes (hps.mem_iff.mpr (mem_covering.mpr hp)) hp hlength]
  exact (pixel_convertPlane hp).symm

/-- Level 0 of a plane is its pixels, row by row. -/
theorem toList_level0_convertPlane :
    (convertPlane src dst divisor f).level0.toList =
      (Window.covering dst.size).texels.flatMap (subsampledPixel src dst divisor f) := by
  rw [← (tiled _).pixels_eq]
  exact List.flatMap_congr fun p hp => pixel_convertPlane (mem_covering.mp hp)

end Texture

/-- **An operation that computes comes to the plane in whatever order.** -/
theorem editInOrder_ofRule {m : Type → Type} [Monad m] [LawfulMonad m] {src dst : Texture}
    {divisor : Nat} {f : List UInt8 → List UInt8 → List UInt8} (hd : divisor < 2 ^ 32)
    (hsrc : ∀ p, dst.contains p = true → src.contains (p.times divisor) = true)
    {ps : List Texel} (hps : ps.Perm (Window.covering dst.size).texels) :
    editInOrder (PixelEdit.ofRule f : PixelEdit m) src divisor ps dst =
      pure (convertPlane src dst divisor f) := by
  have hcall : (PixelEdit.ofRule f : PixelEdit m).call src dst divisor = fun p =>
      pure (PixelAccess.write p (subsampledPixel src dst divisor f p)) := by
    funext p
    rw [PixelEdit.call, PixelEdit.ofRule, pure_bind]
    rfl
  rw [editInOrder_eq hd hsrc hps, hcall, List.mapM_pure, liftM_pure, pure_bind,
    Texture.accessAll_subsampledPixel hps]

/-! ## Planes -/

section planes

variable {m : Type → Type} [Monad m]

/-- The loop over a plane and an operation. Nothing the operation is called on lies outside a
texture. It is called once for each pixel, on the bytes that stood there and on those of the source
pixel, and no fault but one of its own stops the loop; in another order, it is called in that order.
Whatever it gives, no byte past level 0 changes. -/
structure EditsEachOnce (op : PixelEdit m) (src dst : Texture) (divisor : Nat) : Prop where
  inside : ∀ p, dst.contains p = true →
    dst.offset p + dst.bytesPerPixel ≤ dst.level0Size ∧
    src.contains (p.times divisor) = true ∧
    src.offset (p.times divisor) + src.bytesPerPixel ≤ src.level0Size
  nodup : (Window.covering dst.size).texels.Nodup
  mem_iff : ∀ p, p ∈ (Window.covering dst.size).texels ↔ dst.contains p = true
  plane_eq : editPlane op src divisor dst = do
    let writes ← liftM ((Window.covering dst.size).texels.mapM (op.call src dst divisor))
    return dst.accessAll writes
  inOrder_eq : ∀ ps, ps.Perm (Window.covering dst.size).texels →
    editInOrder op src divisor ps dst = do
      let writes ← liftM (ps.mapM (op.call src dst divisor))
      return dst.accessAll writes
  rest : ∀ writes, dst.Repainted (dst.accessAll writes)

variable (m) in
/-- The last texture is the first with every pixel computed from itself and the source pixel at a
multiple of its coordinates, in whatever order. What is computed stands over the pixel; if it is as
long, it is the pixel. -/
structure Texture.Subsampled (dst src : Texture) (divisor : Nat)
    (f : List UInt8 → List UInt8 → List UInt8) (u : Texture) : Prop where
  repainted : dst.Repainted u
  pixel_eq : ∀ p, dst.contains p = true → u.pixel p = subsampledPixel src dst divisor f p
  whole_eq : ∀ p, dst.contains p = true →
    (f (dst.pixel p) (src.pixel (p.times divisor))).length = dst.bytesPerPixel →
      u.pixel p = f (dst.pixel p) (src.pixel (p.times divisor))
  level0_eq : u.level0.toList =
    (Window.covering dst.size).texels.flatMap (subsampledPixel src dst divisor f)
  plane_eq : editPlane (.ofRule f) src divisor dst = (pure u : ExceptT Fault m Texture)
  inOrder_eq : ∀ ps, ps.Perm (Window.covering dst.size).texels →
    editInOrder (.ofRule f) src divisor ps dst = (pure u : ExceptT Fault m Texture)

variable [LawfulMonad m] {src dst : Texture} {divisor : Nat} (hd : divisor < 2 ^ 32)
  (hsrc : ∀ p, dst.contains p = true → src.contains (p.times divisor) = true)

include hd hsrc

theorem editsEachOnce (op : PixelEdit m) : EditsEachOnce op src dst divisor where
  inside p hp :=
    ⟨Texture.offset_add_le hp, hsrc p hp, Texture.offset_add_le (hsrc p hp)⟩
  nodup := Window.nodup_texels _
  mem_iff _ := Texture.mem_covering
  plane_eq := editPlane_eq hd hsrc
  inOrder_eq _ hps := editInOrder_eq hd hsrc hps
  rest := dst.repainted_accessAll

theorem subsampled_convertPlane (f : List UInt8 → List UInt8 → List UInt8) :
    dst.Subsampled m src divisor f (convertPlane src dst divisor f) where
  repainted := Texture.repainted_paint fun _ => Texture.mem_covering.mp
  pixel_eq _ hp := Texture.pixel_convertPlane hp
  whole_eq _ hp hlength := by
    rw [Texture.pixel_convertPlane hp]
    exact overwritten_of_length (hlength.trans (Texture.length_pixel hp).symm)
  level0_eq := Texture.toList_level0_convertPlane
  plane_eq := by
    have hrows : editPlane (.ofRule f : PixelEdit m) src divisor dst =
        editInOrder (.ofRule f) src divisor (Window.covering dst.size).texels dst :=
      (editPlane_eq hd hsrc).trans (editInOrder_eq hd hsrc (List.Perm.refl _)).symm
    rw [hrows, editInOrder_ofRule hd hsrc (List.Perm.refl _)]
  inOrder_eq _ hps := editInOrder_ofRule hd hsrc hps

end planes

/-- A source that is large enough has all the pixels that are taken. -/
theorem Texture.contains_times {src dst : Texture} {divisor : Nat} {p : Texel} (hpos : 0 < divisor)
    (hcols : divisor * dst.size.cols ≤ src.size.cols)
    (hrows : divisor * dst.size.rows ≤ src.size.rows) (hp : dst.contains p = true) :
    src.contains (p.times divisor) = true := by
  obtain ⟨hx, hy⟩ := contains_iff.mp hp
  refine contains_iff.mpr ⟨?_, ?_⟩
  · calc p.x * divisor < dst.size.cols * divisor := Nat.mul_lt_mul_of_pos_right hx hpos
      _ ≤ src.size.cols := by rwa [Nat.mul_comm]
  · calc p.y * divisor < dst.size.rows * divisor := Nat.mul_lt_mul_of_pos_right hy hpos
      _ ≤ src.size.rows := by rwa [Nat.mul_comm]

/-- **Planes are subsampled for every divisor.** If the source has `divisor` times the columns and
rows of the plane, or more, a loop over the plane calls its operation once for each pixel, on the
bytes of the pixel and of the source pixel at `divisor` times its coordinates, whatever effects the
operation has; no address leaves the words or level 0 of its texture, and no byte past level 0 of
the plane changes. An operation that only computes leaves every pixel what it makes of these two, in
whatever order the pixels are gone over. -/
theorem planes_subsampled {m : Type → Type} [Monad m] [LawfulMonad m] (op : PixelEdit m)
    (f : List UInt8 → List UInt8 → List UInt8) {src dst : Texture} {divisor : UInt32}
    (hpos : 0 < divisor) (hcols : divisor.toNat * dst.size.cols ≤ src.size.cols)
    (hrows : divisor.toNat * dst.size.rows ≤ src.size.rows) :
    EditsEachOnce op src dst divisor.toNat ∧
      dst.Subsampled m src divisor.toNat f (convertPlane src dst divisor.toNat f) := by
  have hd : divisor.toNat < 2 ^ 32 := divisor.toNat_lt
  have hsrc : ∀ p, dst.contains p = true → src.contains (p.times divisor.toNat) = true :=
    fun _ hp => Texture.contains_times (UInt32.lt_iff_toNat_lt.mp hpos) hcols hrows hp
  exact ⟨editsEachOnce hd hsrc op, subsampled_convertPlane hd hsrc f⟩

/-- Four rows of five pixels, numbered from one on. -/
def numberedRows : Texture :=
  .ofBytes { size := ⟨5, 4⟩, format := .r8 }
    #[1, 2, 3, 4, 5, 6, 7, 8, 9, 10, 11, 12, 13, 14, 15, 16, 17, 18, 19, 20] rfl

/-- Two rows of two pixels, and one more level. -/
def smallPlane : Texture :=
  .ofBytes { size := ⟨2, 2⟩, format := .r8, levels := 2 } #[50, 60, 70, 80, 90, 91, 92, 93] rfl

/-- Keeps what it is called on, and adds the two first bytes. -/
def keepCalls : PixelEdit (StateM (List (List UInt8 × List UInt8))) := fun old new => do
  modify fun calls => calls ++ [(old, new)]
  PixelEdit.ofRule (fun old new => [old.headD 0 + new.headD 0]) old new

/-- Every second pixel of every second row is added to a plane. -/
theorem smallPlane_subsampled :
    0 < (2 : UInt32) ∧ (2 : UInt32).toNat * smallPlane.size.cols ≤ numberedRows.size.cols ∧
    (2 : UInt32).toNat * smallPlane.size.rows ≤ numberedRows.size.rows ∧
    ((editPlane keepCalls numberedRows 2 smallPlane).run.run []).2 =
      [([50], [1]), ([60], [3]), ([70], [11]), ([80], [13])] ∧
    ((editPlane keepCalls numberedRows 2 smallPlane).run.run []).1.map Texture.bytes =
      .ok #[51, 63, 81, 93, 90, 91, 92, 93] ∧
    (convertPlane numberedRows smallPlane 2 fun _ new => new).level0.toList = [1, 3, 11, 13] := by
  have hpos : 0 < (2 : UInt32) := by decide
  have hcols : (2 : UInt32).toNat * smallPlane.size.cols ≤ numberedRows.size.cols := by decide
  have hrows : (2 : UInt32).toNat * smallPlane.size.rows ≤ numberedRows.size.rows := by decide
  obtain ⟨hedits, hplane⟩ :=
    planes_subsampled keepCalls (fun _ new => new) hpos hcols hrows
  have hcalls := hedits.plane_eq
  rw [show ((UInt32.toNat 2 : Nat) : Int) = 2 from rfl] at hcalls
  rw [hcalls]
  exact ⟨hpos, hcols, hrows, rfl, rfl, hplane.level0_eq.trans (by decide)⟩

end BlitDevice
