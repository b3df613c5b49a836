import BlitDevice.Proofs.Workspace

/-!
# Copies and clears as they are carried out

* `Canvas.copyAll`, `Canvas.copyRegion` — the two copies, on the surface they write to.
* `Memory.copyTexture_eq` and its like — what is done to memory, as one surface that is written.
* `Workspace.copyTexture`, `Workspace.copyRegion`, `Workspace.stageTexture`, `Workspace.clear` — the
  calls: what is checked and what is taken hold of, in which order; each `run_` lemma says that
  nothing stops it and what it comes to.
-/

set_option autoImplicit false

namespace BlitDevice

/-! ## Regions -/

namespace Memory

theorem regionExtent_lt {extent origin size : Nat} (he : extent < 2 ^ 32) (hs : size < 2 ^ 32) :
    regionExtent extent origin size < 2 ^ 32 := by
  unfold regionExtent
  split <;> omega

namespace Region

variable (r : Region) (s : Size)

theorem width_lt : r.width s < 2 ^ 32 := regionExtent_lt r.srcWidth.toNat_lt s.cols_lt

theorem height_lt : r.height s < 2 ^ 32 := regionExtent_lt r.srcHeight.toNat_lt s.rows_lt

theorem inRange_srcRect : (r.srcRect s).InRange := by
  have hx := r.srcX.toNat_lt
  have hy := r.srcY.toNat_lt
  have hw := r.width_lt s
  have hh := r.height_lt s
  exact Rect.inRange_of_bounds (by omega) (by omega) (by omega) (by omega)

theorem inRange_dstRect : (r.dstRect s).InRange := by
  have hx := r.dstX.toNat_lt
  have hy := r.dstY.toNat_lt
  have hw := r.width_lt s
  have hh := r.height_lt s
  exact Rect.inRange_of_bounds (by omega) (by omega) (by omega) (by omega)

end Region

end Memory

/-! ## Copies -/

namespace Canvas

open InPlace

variable {c : Canvas}

/-- Copies all of a texture onto one of its size and format. -/
def copyAll (src : Texture) : InPlace Canvas Unit := do
  let dst := (← state).texture
  ofExcept (Memory.checkAlike src dst)
  let allOfSrc ← checked (coveringWords src.size)
  let allOfDst ← checked (coveringWords dst.size)
  blit src allOfSrc allOfDst

/-- Copies a part of a texture, not scaled. -/
def copyRegion (r : Memory.Region) (src : Texture) : InPlace Canvas Unit :=
  blit src (r.srcRect src.size) (r.dstRect src.size)

theorem run_copyAll (src : Texture) (c : Canvas) :
    (copyAll src).run c =
      .ok (c.endUp (blitWrites src c.texture (.covering src.size) (.covering c.texture.size)) (do
        Memory.checkAlike src c.texture
        BlitDevice.blit src c.texture (.covering src.size) (.covering c.texture.size))) := by
  simp only [copyAll, run_bind, run_state, andThen_ok, run_ofExcept]
  cases Memory.checkAlike src c.texture with
  | error e => rfl
  | ok u =>
    simp only [andThen_ok, run_bind, run_checked (coveringWords_eq _)]
    exact run_blit src (Rect.inRange_covering _) (Rect.inRange_covering _) c

theorem run_copyRegion (r : Memory.Region) (src : Texture) (c : Canvas) :
    (copyRegion r src).run c =
      .ok (c.endUp (blitWrites src c.texture (r.srcRect src.size) (r.dstRect src.size))
        (BlitDevice.blit src c.texture (r.srcRect src.size) (r.dstRect src.size))) :=
  run_blit src (r.inRange_srcRect _) (r.inRange_dstRect _) c

end Canvas

/-! ## Operations on memory write one surface -/

namespace Memory

theorem storing_bind {α : Type} (m : Memory) (s : Surface) (x : Except Error α)
    (f : α → Except Error (Texture × Log)) :
    (x >>= fun a => m.storing s (f a)) = m.storing s (x >>= f) := by
  cases x <;> rfl

theorem blitToTexture_eq (m : Memory) (dst src : TextureId) (srcRect dstRect : Rect) :
    m.blitToTexture dst src srcRect dstRect =
      m.storing (.texture dst) (blit (m.texture src) (m.texture dst) srcRect dstRect) := by
  rw [blitToTexture]
  cases blit (m.texture src) (m.texture dst) srcRect dstRect <;> rfl

theorem blitToView_eq (m : Memory) (dst : ViewId) (src : TextureId) (srcRect dstRect : Rect) :
    m.blitToView dst src srcRect dstRect =
      m.storing (.output dst) (blit (m.texture src) (m.view dst).output srcRect dstRect) := by
  rw [blitToView, View.blitFrom]
  cases blit (m.texture src) (m.view dst).output srcRect dstRect <;> rfl

theorem copyTexture_eq (m : Memory) {dst src : TextureId} (h : dst ≠ src) :
    m.copyTexture dst src = m.storing (.texture dst) (do
      checkAlike (m.texture src) (m.texture dst)
      blit (m.texture src) (m.texture dst) (.covering (m.texture src).size)
        (.covering (m.texture dst).size)) := by
  rw [copyTexture, if_neg h, ← storing_bind]
  simp only [blitToTexture_eq]

theorem copyRegion_eq (m : Memory) {dst src : TextureId} (h : dst ≠ src) (r : Region) :
    m.copyRegion dst src r = m.storing (.texture dst)
      (blit (m.texture src) (m.texture dst) (r.srcRect (m.texture src).size)
        (r.dstRect (m.texture src).size)) := by
  rw [copyRegion, if_neg h, ← blitToTexture_eq]

theorem stageTexture_eq (m : Memory) (dst : StageId) (src : TextureId) :
    m.stageTexture dst src = m.storing (.stage dst) (do
      checkAlike (m.texture src) (m.stage dst).texture
      blit (m.texture src) (m.stage dst).texture (.covering (m.texture src).size)
        (.covering (m.stage dst).texture.size)) := by
  rw [stageTexture, ← storing_bind]
  cases checkAlike (m.texture src) (m.stage dst).texture with
  | error e => rfl
  | ok u =>
    cases blit (m.texture src) (m.stage dst).texture (.covering (m.texture src).size)
        (.covering (m.stage dst).texture.size) <;> rfl

end Memory

/-! ## The calls -/

namespace Workspace

open InPlace

/-- Copies all of a texture onto another one. -/
def copyTexture (dst src : TextureId) : InPlace Workspace Unit :=
  if dst = src then refuse .textureAliasing
  else transfer (.texture dst) src Canvas.copyAll

/-- Copies a part of a texture to another one. -/
def copyRegion (dst src : TextureId) (r : Memory.Region) : InPlace Workspace Unit :=
  if dst = src then refuse .textureAliasing
  else transfer (.texture dst) src (Canvas.copyRegion r)

/-- Copies level 0 of a texture into a stage surface. -/
def stageTexture (dst : StageId) (src : TextureId) : InPlace Workspace Unit :=
  transfer (.stage dst) src Canvas.copyAll

/-- The pixel a clear fills with. -/
def clearPixel (format : PixelFormat) (color : Vec4 Float32) : Except Error (List UInt8) :=
  match (Rgba8.ofFloats color.x color.y color.z color.w).encode? format with
  | some px => .ok px
  | none => .error (.unsupportedFormat format)

/-- Fills a texture that is held. It is still held when an error is told. -/
def fillHeld (target : TextureId) (color : Vec4 Float32) : InPlace Workspace Unit := do
  let t ← look (.texture target)
  let px ← reported (ofExcept (clearPixel t.format color))
  paintOn (.texture target) (Canvas.fill px)

/-- Fills the render target. -/
def clear (flags : ClearFlags) (color : Vec4 Float32) : InPlace Workspace Unit := do
  match (← context).bindings.renderTarget with
  | none => return ()
  | some target =>
    if flags.color then writing (.texture target) (fillHeld target color) else return ()

variable {w : Workspace}

theorem run_copyTexture (hidle : w.Idle) (dst src : TextureId) :
    (copyTexture dst src).run w = .ok (w.endUp (w.session.memory.copyTexture dst src)) := by
  by_cases h : dst = src
  · rw [copyTexture, if_pos h, Memory.copyTexture, if_pos h]
    rfl
  · have hne : Surface.texture dst ≠ .texture src := fun h' => h (Surface.texture.inj h')
    rw [copyTexture, if_neg h, run_transfer hidle hne (Canvas.run_copyAll _ _),
      Memory.copyTexture_eq _ h]
    rfl

theorem run_copyRegion (hidle : w.Idle) (dst src : TextureId) (r : Memory.Region) :
    (copyRegion dst src r).run w = .ok (w.endUp (w.session.memory.copyRegion dst src r)) := by
  by_cases h : dst = src
  · rw [copyRegion, if_pos h, Memory.copyRegion, if_pos h]
    rfl
  · have hne : Surface.texture dst ≠ .texture src := fun h' => h (Surface.texture.inj h')
    rw [copyRegion, if_neg h, run_transfer hidle hne (Canvas.run_copyRegion r _ _),
      Memory.copyRegion_eq _ h]
    rfl

theorem run_stageTexture (hidle : w.Idle) (dst : StageId) (src : TextureId) :
    (stageTexture dst src).run w = .ok (w.endUp (w.session.memory.stageTexture dst src)) := by
  have hne : Surface.stage dst ≠ .texture src := by intro h; cases h
  rw [stageTexture, run_transfer hidle hne (Canvas.run_copyAll _ _), Memory.stageTexture_eq]
  rfl

theorem clear_eq (m : Memory) (dst : TextureId) (color : Vec4 Float32) :
    m.clear dst color = m.storing (.texture dst)
      ((clearPixel (m.texture dst).format color).map fun px => ((m.texture dst).fill px, [])) := by
  unfold Memory.clear clearPixel
  dsimp only
  cases (Rgba8.ofFloats color.x color.y color.z color.w).encode? (m.texture dst).format <;> rfl

theorem run_fillHeld {target : TextureId} (h : w.held (.texture target) = .exclusive)
    (color : Vec4 Float32) :
    (fillHeld target color).run w =
      .ok (w.settle (w.session.commit [] (w.session.memory.clear target color))) := by
  rw [fillHeld, run_bind, run_look (by rw [h]; decide), andThen_ok, run_bind, clear_eq]
  dsimp only [Memory.load]
  cases clearPixel (w.session.memory.texture target).format color with
  | error e => rfl
  | ok px =>
    rw [reported_ok (run_ofExcept _ _), andThen_ok]
    exact run_paintOn h
      (Canvas.run_fill px { texture := w.session.memory.texture target, log := w.log })

theorem run_clear (hidle : w.Idle) (flags : ClearFlags) (color : Vec4 Float32) :
    (clear flags color).run w = .ok (w.settle (w.session.clear flags color)) := by
  unfold clear Session.clear
  simp only [run_bind, run_context, andThen_ok]
  cases w.session.context.bindings.renderTarget with
  | none => rw [settle_done]; rfl
  | some target =>
    by_cases hcolor : flags.color = true
    · simp only [if_pos hcolor]
      have hfill := run_fillHeld (held_withHold_self w (.texture target) .exclusive) color
      exact run_writing (hidle _) hfill rfl
    · simp only [if_neg hcolor]
      rw [settle_done]; rfl

end Workspace

end BlitDevice
