import BlitDevice.Proofs.Transfers

/-!
# Calls as they are carried out

Each call that works on surfaces, step by step: what is looked at and checked, what is taken hold of
and when, what is written, and where an error is told.

* `QuadGeometry.inRange_ofDraw` — the rectangles of a draw are made of 64-bit numbers.
* `Workspace.draw`, `Workspace.present`, `Workspace.resize` and the others — the calls; each `run_`
  lemma says that nothing stops it and what it comes to.
* `Workspace.perform` — any call; `Workspace.run_perform` says that it is carried out as it is
  described.
-/

set_option autoImplicit false

namespace BlitDevice

/-! ## Rectangles of calls -/

/-- A side has its extent between its ends, rounded, and this is a word. -/
theorem span_eq_ok_iff {K : Type} [Scalar K] {side : RectSide} {low high : K} {a n : Int} :
    span side low high = .ok (a, n) ↔
      a = Scalar.toWord low ∧ n = Scalar.toWord high - Scalar.toWord low ∧
        Binary32.leastWord ≤ n ∧ n ≤ Binary32.greatestWord := by
  unfold span
  dsimp only
  split
  · rename_i hfits
    constructor
    · intro h
      cases h
      exact ⟨rfl, rfl, hfits⟩
    · rintro ⟨rfl, rfl, _⟩
      rfl
  · rename_i hfits
    constructor
    · intro h
      cases h
    · rintro ⟨rfl, rfl, h⟩
      exact absurd h hfits

theorem span_bounds {side : RectSide} {low high : Float32} {a n : Int}
    (h : span side low high = .ok (a, n)) :
    (-2 ^ 63 ≤ a ∧ a < 2 ^ 63) ∧ -2 ^ 63 ≤ n ∧ n < 2 ^ 63 := by
  obtain ⟨rfl, hextent, hfits⟩ := span_eq_ok_iff.mp h
  have hlow := Binary32.toWord_bounds (Binary32.ofFloat low)
  simp only [Scalar.toWord, Binary32.leastWord, Binary32.greatestWord] at hlow hfits ⊢
  omega

/-- The four sides of a quad. -/
theorem QuadGeometry.ofCorners_eq_ok {K : Type} [Scalar K] {p0 p3 : ScreenPoint K} {uv0 uv3 : K × K}
    {q : QuadGeometry} (h : ofCorners p0 p3 uv0 uv3 = .ok q) :
    span .destinationWidth p0.x p3.x = .ok (q.dst.x, q.dst.width) ∧
      span .destinationHeight p0.y p3.y = .ok (q.dst.y, q.dst.height) ∧
      span .sourceWidth uv0.1 uv3.1 = .ok (q.src.x, q.src.width) ∧
      span .sourceHeight uv0.2 uv3.2 = .ok (q.src.y, q.src.height) := by
  simp only [ofCorners, bind_eq_ok] at h
  obtain ⟨⟨x, width⟩, hx, ⟨y, height⟩, hy, ⟨u, uWidth⟩, hu, ⟨v, vHeight⟩, hv, hq⟩ := h
  cases hq
  exact ⟨hx, hy, hu, hv⟩

theorem QuadGeometry.inRange_ofCorners {p0 p3 : ScreenPoint Float32} {uv0 uv3 : Float32 × Float32}
    {q : QuadGeometry} (h : ofCorners p0 p3 uv0 uv3 = .ok q) : q.src.InRange ∧ q.dst.InRange := by
  obtain ⟨hx, hy, hu, hv⟩ := ofCorners_eq_ok h
  obtain ⟨hx, hwidth⟩ := span_bounds hx
  obtain ⟨hy, hheight⟩ := span_bounds hy
  obtain ⟨hu, huWidth⟩ := span_bounds hu
  obtain ⟨hv, hvHeight⟩ := span_bounds hv
  exact ⟨Rect.inRange_of_bounds hu hv huWidth hvHeight,
    Rect.inRange_of_bounds hx hy hwidth hheight⟩

/-- The rectangles of a draw are made of 64-bit numbers. -/
theorem QuadGeometry.inRange_ofDraw {buffer : Option (VertexBuffer Float32)}
    {t : Transforms Float32} {mode : DrawMode} {start count : UInt32} {q : QuadGeometry}
    (h : ofDraw buffer t mode start count = .ok q) : q.src.InRange ∧ q.dst.InRange := by
  unfold ofDraw at h
  split at h
  · cases h
  · simp only [bind_eq_ok] at h
    obtain ⟨⟨⟨v0, v3⟩, uv0, uv3⟩, _, p0, _, p3, _, hq⟩ := h
    exact inRange_ofCorners hq

/-! ## Calls on surfaces -/

namespace Workspace

open InPlace

/-- Blits the bound image where the quad says. -/
def texturedBlit (mode : DrawMode) (start count : UInt32) : InPlace Workspace Unit := do
  let c ← context
  let quad ← ofExcept (QuadGeometry.ofDraw c.bindings.vertexBuffer c.transforms mode start count)
  let image ← ofExcept c.boundImage
  match c.bindings.renderTarget with
  | some target =>
    if target = image then refuse .textureAliasing
    else transfer (.texture target) image fun src => Canvas.blit src quad.src quad.dst
  | none =>
    match c.swapchain with
    | some view => transfer (.output view) image fun src => Canvas.blit src quad.src quad.dst
    | none => refuse .noSwapchain

/-- Computes the luma plane of the bound image. -/
def luma : InPlace Workspace Unit := do
  let c ← context
  let target ← ofExcept c.boundTarget
  let image ← ofExcept c.boundImage
  if target = image then refuse .textureAliasing
  else transfer (.texture target) image fun src => Canvas.luma src (c.params.colorVec 0)

/-- Declines, if there is a render target. -/
def chroma : InPlace Workspace Unit := do
  let _ ← ofExcept (← context).boundTarget
  refuse (.unimplemented .chromaPlane)

/-- Emulates a draw. -/
def draw (mode : DrawMode) (start count : UInt32) : InPlace Workspace Unit := do
  let route ← ofExcept (← context).route
  tell (.drawing route)
  match route with
  | .texturedBlit => texturedBlit mode start count
  | .luma => luma
  | .chroma => chroma

/-- The loaded view. -/
def loadedView : InPlace Workspace ViewId := do
  match (← context).swapchain with
  | some view => return view
  | none => refuse .noSwapchain

/-- A view that is held. -/
def lookAtView (id : ViewId) : InPlace Workspace View := ⟨fun w =>
  if w.held (.output id) = .shared 0 then .error .conflict
  else .ok (.ok (w.session.memory.view id), w)⟩

/-- Replaces a view that is held alone. -/
def putView (id : ViewId) (v : View) : InPlace Workspace Unit := ⟨fun w =>
  if w.held (.output id) = .exclusive then
    .ok (.ok (), { w with
      session := { w.session with memory := w.session.memory.setView id v } })
  else .error .conflict⟩

/-- Counts a frame, then tells it. -/
def present : InPlace Workspace Unit := do
  let id ← loadedView
  writing (.output id) (do
    let view ← lookAtView id
    putView id { view with presented := view.presented + 1 }
    tell (.presented (view.presented + 1)))

/-- Gives the loaded view a fresh output. -/
def resize (size : Size) : InPlace Workspace Unit := do
  let id ← loadedView
  writing (.output id) (do
    let output ← ofExcept (Texture.create (View.outputConfig size) none)
    putView id { (← lookAtView id) with output })

/-- The size of the loaded view's output. -/
def outputSize : InPlace Workspace Size := do
  let id ← loadedView
  reading (.output id) (do
    return (← lookAtView id).size)

/-- Takes a texture in. -/
def addTexture (t : Texture) : InPlace Workspace TextureId := ⟨fun w =>
  let (memory, id) := w.session.memory.addTexture t
  .ok (.ok id, { w with session := { w.session with memory } })⟩

/-- Takes a stage surface in. -/
def addStage (stage : StageSurface) : InPlace Workspace StageId := ⟨fun w =>
  let (memory, id) := w.session.memory.addStage stage
  .ok (.ok id, { w with session := { w.session with memory } })⟩

/-- Takes a texture in, if there is one. -/
def keepTexture (result : Except Error Texture) : InPlace Workspace TextureId := do
  addTexture (← reported (ofExcept result))

def createStage (size : Size) (format : PixelFormat) : InPlace Workspace StageId := do
  addStage (← reported (ofExcept (StageSurface.create size format)))

/-- Takes the projection saved last off the others. -/
def takeSaved : InPlace Workspace (Mat4 Float32) := do
  match (← context).transforms.saved with
  | [] => refuse .projectionStackEmpty
  | m :: rest =>
    change fun w => { w with
      session := w.session.modifyContext fun c =>
        { c with transforms := { c.transforms with saved := rest } } }
    return m

/-- Brings the projection saved last back. -/
def popProjection : InPlace Workspace Unit := do
  let m ← reported takeSaved
  change fun w => { w with
    session := w.session.modifyContext fun c =>
      { c with transforms := { c.transforms with projection := m } } }

/-- A call that asks nothing of any surface. -/
def outright {α : Type} (f : Session → Outcome α) : InPlace Workspace α := ⟨fun w =>
  .ok ((f w.session).answer, { w with
    session := (f w.session).session
    log := w.log ++ (f w.session).log })⟩

/-- Carries a call out. Calls that cannot fail are carried out as they are described. -/
def perform : Call → InPlace Workspace Answer
  | .createTexture config data => do return .texture (← keepTexture (Texture.create config data))
  | .createTextureFromPng picture name => do
    return .texture (← keepTexture (Texture.ofReading picture name))
  | .createStage size format => do return .stage (← createStage size format)
  | .declined call => reported (refuse (.unimplemented call.operation))
  | .popProjection => do popProjection; return .done
  | .clear flags color _ _ => do clear flags color; return .done
  | .copyTexture dst src => do reported (copyTexture dst src); return .done
  | .copyRegion dst src region => do reported (copyRegion dst src region); return .done
  | .stageTexture dst src => do reported (stageTexture dst src); return .done
  | .draw mode start count => do reported (draw mode start count); return .done
  | .present => do reported present; return .done
  | .resize size => do reported (resize size); return .done
  | .outputSize => do return .size (← reported outputSize)
  | call => outright fun s => s.step call

/-! ## What the calls come to -/

variable {w : Workspace}

/-- A blit of a texture into another surface. -/
theorem run_transfer_blit (hidle : w.Idle) {dst : Surface} {src : TextureId}
    (hne : dst ≠ .texture src) {srcRect dstRect : Rect} (hs : srcRect.InRange)
    (hd : dstRect.InRange) :
    (transfer dst src fun t => Canvas.blit t srcRect dstRect).run w =
      .ok (w.endUp (w.session.memory.storing dst
        (blit (w.session.memory.texture src) (w.session.memory.load dst) srcRect dstRect))) :=
  run_transfer hidle hne (Canvas.run_blit _ hs hd _)

theorem run_texturedBlit (hidle : w.Idle) (mode : DrawMode) (start count : UInt32) :
    (texturedBlit mode start count).run w =
      .ok (w.endUp (w.session.context.texturedBlit w.session.memory mode start count)) := by
  unfold texturedBlit DrawContext.texturedBlit
  simp only [run_bind, run_context, andThen_ok, run_ofExcept]
  cases hquad : QuadGeometry.ofDraw w.session.context.bindings.vertexBuffer
      w.session.context.transforms mode start count with
  | error e => rfl
  | ok quad =>
    obtain ⟨hs, hd⟩ := QuadGeometry.inRange_ofDraw hquad
    cases w.session.context.boundImage with
    | error e => rfl
    | ok image =>
      simp only [andThen_ok, run_bind, run_ofExcept, ok_bind]
      cases w.session.context.bindings.renderTarget with
      | some target =>
        by_cases h : target = image
        · simp only [if_pos h, run_refuse]
          rfl
        · have hne : Surface.texture target ≠ .texture image :=
            fun h' => h (Surface.texture.inj h')
          simp only [if_neg h, run_transfer_blit hidle hne hs hd, Memory.blitToTexture_eq]
          rfl
      | none =>
        cases w.session.context.swapchain with
        | none => rfl
        | some view =>
          have hne : Surface.output view ≠ .texture image := by intro h; cases h
          simp only [run_transfer_blit hidle hne hs hd, Memory.blitToView_eq]
          rfl

theorem run_luma (hidle : w.Idle) :
    luma.run w = .ok (w.endUp (w.session.context.luma w.session.memory)) := by
  unfold luma DrawContext.luma
  simp only [run_bind, run_context, andThen_ok, run_ofExcept]
  cases w.session.context.boundTarget with
  | error e => rfl
  | ok target =>
    cases w.session.context.boundImage with
    | error e => rfl
    | ok image =>
      simp only [andThen_ok, run_bind, run_ofExcept, ok_bind]
      by_cases h : target = image
      · simp only [if_pos h, run_refuse]
        rfl
      · have hne : Surface.texture target ≠ .texture image := fun h' => h (Surface.texture.inj h')
        rw [if_neg h, if_neg h, run_transfer hidle hne (Canvas.run_luma _ _ _)]
        dsimp only [Memory.load]
        cases convertToLuma (w.session.memory.texture image) (w.session.memory.texture target)
            (w.session.context.params.colorVec 0) <;> rfl

theorem run_chroma (w : Workspace) : chroma.run w = .ok (w.endUp w.session.context.chroma) := by
  unfold chroma DrawContext.chroma
  simp only [run_bind, run_context, andThen_ok, run_ofExcept]
  cases w.session.context.boundTarget <;> rfl

/-- A draw tells its route before anything that depends on it can fail. -/
theorem run_draw (hidle : w.Idle) (mode : DrawMode) (start count : UInt32) :
    (reported (draw mode start count)).run w =
      .ok (w.settle (w.session.draw mode start count)) := by
  unfold Session.draw
  cases hroute : w.session.context.route with
  | error e =>
    refine reported_error ?_
    simp only [draw, run_bind, run_context, andThen_ok, run_ofExcept, hroute, andThen_error]
  | ok route =>
    refine run_reported_hearing ?_
    have hidle' : (w.hearing [.drawing route]).Idle := hidle
    simp only [draw, run_bind, run_context, andThen_ok, run_ofExcept, hroute, run_tell]
    cases route with
    | texturedBlit => exact run_texturedBlit hidle' mode start count
    | luma => exact run_luma hidle'
    | chroma => exact run_chroma (w.hearing [.drawing .chroma])

theorem run_lookAtView {id : ViewId} (h : w.held (.output id) ≠ .shared 0) :
    (lookAtView id).run w = .ok (.ok (w.session.memory.view id), w) := if_neg h

theorem run_putView {id : ViewId} (h : w.held (.output id) = .exclusive) (v : View) :
    (putView id v).run w = .ok (.ok (), { w with
      session := { w.session with memory := w.session.memory.setView id v } }) := if_pos h

theorem run_loadedView {id : ViewId} (h : w.session.context.swapchain = some id) :
    loadedView.run w = .ok (.ok id, w) := by
  simp only [loadedView, run_bind, run_context, andThen_ok, h, run_pure]

theorem run_loadedView_none (h : w.session.context.swapchain = none) :
    loadedView.run w = .ok (.error .noSwapchain, w) := by
  simp only [loadedView, run_bind, run_context, andThen_ok, h, run_refuse]

theorem run_present (hidle : w.Idle) :
    (reported present).run w = .ok (w.settle w.session.present) := by
  unfold present Session.present
  cases hview : w.session.context.swapchain with
  | none =>
    refine reported_error ?_
    rw [run_bind, run_loadedView_none hview, andThen_error]
  | some id =>
    have hself := held_withHold_self w (.output id) .exclusive
    refine reported_ok ?_
    rw [run_bind, run_loadedView hview, andThen_ok]
    refine run_writing (hidle _) ?_ rfl
    rw [run_bind, run_lookAtView (by rw [hself]; decide), andThen_ok, run_bind, run_putView hself,
      andThen_ok, run_tell]
    rfl

theorem run_resize (hidle : w.Idle) (size : Size) :
    (reported (resize size)).run w = .ok (w.settle (w.session.resize size)) := by
  unfold resize Session.resize View.resize
  cases hview : w.session.context.swapchain with
  | none =>
    refine reported_error ?_
    rw [run_bind, run_loadedView_none hview, andThen_error]
  | some id =>
    have hself := held_withHold_self w (.output id) .exclusive
    dsimp only
    cases houtput : Texture.create (View.outputConfig size) none with
    | error e =>
      refine reported_error ?_
      rw [run_bind, run_loadedView hview, andThen_ok]
      refine run_writing (hidle _) ?_ rfl
      rw [run_bind, run_ofExcept, andThen_error]
    | ok output =>
      dsimp only
      rw [settle_done]
      refine reported_ok ?_
      rw [run_bind, run_loadedView hview, andThen_ok]
      refine run_writing (hidle _) ?_ rfl
      rw [run_bind, run_ofExcept, andThen_ok, run_bind, run_lookAtView (by rw [hself]; decide),
        andThen_ok, run_putView hself]
      rfl

theorem run_outputSize (hidle : w.Idle) :
    (reported outputSize).run w = .ok (w.settle w.session.outputSize) := by
  unfold outputSize Session.outputSize
  cases hview : w.session.context.swapchain with
  | none =>
    refine reported_error ?_
    rw [run_bind, run_loadedView_none hview, andThen_error]
  | some id =>
    dsimp only
    rw [settle_done]
    refine reported_ok ?_
    rw [run_bind, run_loadedView hview, andThen_ok]
    refine run_reading (hidle _) ?_ rfl
    rw [run_bind, run_lookAtView (by rw [held_withHold_self]; decide), andThen_ok, run_pure]
    rfl

theorem run_keepTexture (result : Except Error Texture) (w : Workspace) :
    (keepTexture result).run w = .ok (w.settle (w.session.keepTexture result)) := by
  cases result with
  | ok t => rw [Session.keepTexture, settle_done]; rfl
  | error e => rfl

theorem run_createStage (size : Size) (format : PixelFormat) (w : Workspace) :
    (createStage size format).run w = .ok (w.settle (w.session.createStage size format)) := by
  unfold createStage Session.createStage
  cases StageSurface.create size format with
  | ok stage => dsimp only; rw [settle_done]; rfl
  | error e => rfl

theorem run_popProjection (w : Workspace) :
    popProjection.run w = .ok (w.settle w.session.popProjection) := by
  unfold Session.popProjection
  cases hsaved : w.session.context.transforms.saved with
  | nil =>
    have htake : takeSaved.run w = .ok (.error .projectionStackEmpty, w) := by
      simp only [takeSaved, run_bind, run_context, andThen_ok, hsaved, run_refuse]
    rw [popProjection, run_bind, reported_error htake]
    rfl
  | cons m rest =>
    have htake : takeSaved.run w = .ok (.ok m, { w with
        session := w.session.modifyContext fun c =>
          { c with transforms := { c.transforms with saved := rest } } }) := by
      simp only [takeSaved, run_bind, run_context, andThen_ok, hsaved, run_change, run_pure]
    rw [popProjection, run_bind, reported_ok htake, andThen_ok, run_change]
    dsimp only [Session.transform]
    rw [settle_done]
    rfl

/-- **A call that is carried out ends**, without a fault, with nothing held, and as it is
described. -/
theorem run_perform (hidle : w.Idle) (c : Call) :
    (perform c).run w = .ok (w.settle (w.session.step c)) := by
  cases c with
  | createTexture config data => exact run_wrap Answer.texture (run_keepTexture _ w)
  | createTextureFromPng picture name => exact run_wrap Answer.texture (run_keepTexture _ w)
  | createStage size format => exact run_wrap Answer.stage (run_createStage size format w)
  | declined call => rfl
  | popProjection => exact run_wrap (fun _ => Answer.done) (run_popProjection w)
  | clear flags color _ _ => exact run_wrap (fun _ => Answer.done) (run_clear hidle flags color)
  | copyTexture dst src =>
    exact run_wrap (fun _ => Answer.done) (run_reported (run_copyTexture hidle dst src))
  | copyRegion dst src region =>
    exact run_wrap (fun _ => Answer.done) (run_reported (run_copyRegion hidle dst src region))
  | stageTexture dst src =>
    exact run_wrap (fun _ => Answer.done) (run_reported (run_stageTexture hidle dst src))
  | draw mode start count =>
    exact run_wrap (fun _ => Answer.done) (run_draw hidle mode start count)
  | present => exact run_wrap (fun _ => Answer.done) (run_present hidle)
  | resize size => exact run_wrap (fun _ => Answer.done) (run_resize hidle size)
  | outputSize => exact run_wrap Answer.size (run_outputSize hidle)
  | _ => rfl

end Workspace

end BlitDevice
