import BlitDevice.Proofs.Atomicity

/-!
# What a draw decides

Before it looks at a pixel a draw decides, from what is bound, what it is going to do.

* `Decision`, `Decision.result` — what can be decided, and what comes of it.
* `DrawContext.Decides` — the table: a row for every decision, with all that has to be so.
* `DrawContext.decides_decision`, `DrawContext.eq_decision_of_decides` — in every context one row
  applies, and no other.
* `Session.draw_eq` — draws do what is decided.
* `Workspace.drawThrough`, `Workspace.run_drawThrough` — so do draws that are carried out, with any
  procedure where a view is blitted to.
* `DrawContext.decision_of_planeInputs` — what is bound for a plane decides, and nothing else.
* `draw_follows_table` — all of it.
-/

set_option autoImplicit false

namespace BlitDevice

/-! ## Quads that are none -/

/-- If it fails, then for the shape of the quad. -/
abbrev ShapeOnly {α : Type} (r : Except Error α) : Prop :=
  FailsOnly (fun e => ∃ fault, e = .notABlit fault) r

section Quads

variable {K : Type} [Scalar K]

theorem shapeOnly_span (side : RectSide) (low high : K) : ShapeOnly (span side low high) := by
  unfold span
  dsimp only
  split
  · exact failsOnly_ok _
  · exact failsOnly_error ⟨_, rfl⟩

theorem shapeOnly_corner (t : Transforms K) (index : Nat) (vertex : Vec3 K) :
    ShapeOnly (corner t index vertex) := by
  unfold corner
  split
  · exact failsOnly_ok _
  · exact failsOnly_error ⟨_, rfl⟩

namespace QuadGeometry

omit [Scalar K] in
theorem shapeOnly_corners (data : VertexData K) (mode : DrawMode) (start count : UInt32) :
    ShapeOnly (corners data mode start count) := by
  unfold corners
  repeat' split
  all_goals first | exact failsOnly_ok _ | exact failsOnly_error ⟨_, rfl⟩

theorem shapeOnly_ofCorners (p0 p3 : ScreenPoint K) (uv0 uv3 : K × K) :
    ShapeOnly (ofCorners p0 p3 uv0 uv3) := by
  refine failsOnly_bind (shapeOnly_span _ _ _) fun x => ?_
  refine failsOnly_bind (shapeOnly_span _ _ _) fun y => ?_
  refine failsOnly_bind (shapeOnly_span _ _ _) fun u => ?_
  exact failsOnly_bind (shapeOnly_span _ _ _) fun v => failsOnly_ok _

/-- With a buffer, a draw has no rectangles only for its shape. -/
theorem shapeOnly_ofDraw (buffer : VertexBuffer K) (t : Transforms K) (mode : DrawMode)
    (start count : UInt32) : ShapeOnly (ofDraw (some buffer) t mode start count) := by
  refine failsOnly_bind (shapeOnly_corners _ _ _ _) fun c => ?_
  refine failsOnly_bind (shapeOnly_corner _ _ _) fun p0 => ?_
  exact failsOnly_bind (shapeOnly_corner _ _ _) fun p3 => shapeOnly_ofCorners _ _ _ _

end QuadGeometry

end Quads

/-! ## The table -/

/-- What a draw is going to do. -/
inductive Decision where
  | refuse (e : Error)
  | blit (target image : TextureId) (quad : QuadGeometry)
  | present (view : ViewId) (image : TextureId) (quad : QuadGeometry)
  | luma (target image : TextureId) (color : Vec4 Float32)

/-- What comes of a decision: the memory afterwards and what was told, or an error. -/
def Decision.result (m : Memory) : Decision → Except Error (Memory × Log)
  | refuse e => .error e
  | blit target image quad => m.blitToTexture target image quad.src quad.dst
  | present view image quad => m.blitToView view image quad.src quad.dst
  | luma target image color => do
    let plane ← convertToLuma (m.texture image) (m.texture target) color
    return (m.setTexture target plane, [])

namespace DrawContext

/-- The programs of the bound shaders are known. -/
def Runs (c : DrawContext) (p q : Program) : Prop :=
  ∃ vertex fragment, c.bindings.vertexShader = some vertex ∧
    c.bindings.fragmentShader = some fragment ∧ vertex.kind.program? = some p ∧
    fragment.kind.program? = some q

/-- The rectangles of a draw. -/
def quad (c : DrawContext) (mode : DrawMode) (start count : UInt32) : Except Error QuadGeometry :=
  QuadGeometry.ofDraw c.bindings.vertexBuffer c.transforms mode start count

/-- What a draw decides. -/
inductive Decides (c : DrawContext) (mode : DrawMode) (start count : UInt32) : Decision → Prop where
  | missingShaders :
      c.bindings.vertexShader = none ∨ c.bindings.fragmentShader = none →
      Decides c mode start count (.refuse .missingShaders)
  | unknownShader {vertex fragment : Shader} :
      c.bindings.vertexShader = some vertex → c.bindings.fragmentShader = some fragment →
      vertex.kind = .unknown ∨ fragment.kind = .unknown →
      Decides c mode start count (.refuse (.unknownShader vertex.file fragment.file))
  | unhandledPair {p q : Program} :
      c.Runs p q → ¬ (p = q ∧ (p = .defaultDraw ∨ p = .nv12Y ∨ p = .nv12Uv)) →
      Decides c mode start count (.refuse (.unhandledShaderPair p q))
  -- default draw
  | noVertexBuffer :
      c.Runs .defaultDraw .defaultDraw → c.bindings.vertexBuffer = none →
      Decides c mode start count (.refuse .noVertexBuffer)
  | notABlit {fault : ShapeFault} :
      c.Runs .defaultDraw .defaultDraw → c.quad mode start count = .error (.notABlit fault) →
      Decides c mode start count (.refuse (.notABlit fault))
  | noSourceImage {quad : QuadGeometry} :
      c.Runs .defaultDraw .defaultDraw → c.quad mode start count = .ok quad →
      c.params.image = none →
      Decides c mode start count (.refuse .noSourceImage)
  | ontoItself {quad : QuadGeometry} {image : TextureId} :
      c.Runs .defaultDraw .defaultDraw → c.quad mode start count = .ok quad →
      c.params.image = some image → c.bindings.renderTarget = some image →
      Decides c mode start count (.refuse .textureAliasing)
  | blit {quad : QuadGeometry} {image target : TextureId} :
      c.Runs .defaultDraw .defaultDraw → c.quad mode start count = .ok quad →
      c.params.image = some image → c.bindings.renderTarget = some target → target ≠ image →
      Decides c mode start count (.blit target image quad)
  | noSwapchain {quad : QuadGeometry} {image : TextureId} :
      c.Runs .defaultDraw .defaultDraw → c.quad mode start count = .ok quad →
      c.params.image = some image → c.bindings.renderTarget = none → c.swapchain = none →
      Decides c mode start count (.refuse .noSwapchain)
  | present {quad : QuadGeometry} {image : TextureId} {view : ViewId} :
      c.Runs .defaultDraw .defaultDraw → c.quad mode start count = .ok quad →
      c.params.image = some image → c.bindings.renderTarget = none → c.swapchain = some view →
      Decides c mode start count (.present view image quad)
  -- luma plane
  | noLumaTarget :
      c.Runs .nv12Y .nv12Y → c.bindings.renderTarget = none →
      Decides c mode start count (.refuse .noRenderTarget)
  | noLumaImage {target : TextureId} :
      c.Runs .nv12Y .nv12Y → c.bindings.renderTarget = some target → c.params.image = none →
      Decides c mode start count (.refuse .noSourceImage)
  | lumaOntoItself {image : TextureId} :
      c.Runs .nv12Y .nv12Y → c.bindings.renderTarget = some image →
      c.params.image = some image →
      Decides c mode start count (.refuse .textureAliasing)
  | luma {image target : TextureId} :
      c.Runs .nv12Y .nv12Y → c.bindings.renderTarget = some target →
      c.params.image = some image → target ≠ image →
      Decides c mode start count (.luma target image (c.params.colorVec 0))
  -- chroma plane
  | noChromaTarget :
      c.Runs .nv12Uv .nv12Uv → c.bindings.renderTarget = none →
      Decides c mode start count (.refuse .noRenderTarget)
  | chroma {target : TextureId} :
      c.Runs .nv12Uv .nv12Uv → c.bindings.renderTarget = some target →
      Decides c mode start count (.refuse (.unimplemented .chromaPlane))

/-! ## One row applies -/

variable {c : DrawContext} {mode : DrawMode} {start count : UInt32} {d : Decision}

/-- The row that applies. -/
def decision (c : DrawContext) (mode : DrawMode) (start count : UInt32) : Decision :=
  match c.route with
  | .error e => .refuse e
  | .ok .texturedBlit =>
    match c.quad mode start count with
    | .error e => .refuse e
    | .ok quad =>
      match c.params.image, c.bindings.renderTarget, c.swapchain with
      | none, _, _ => .refuse .noSourceImage
      | some image, some target, _ =>
        if target = image then .refuse .textureAliasing else .blit target image quad
      | some _, none, none => .refuse .noSwapchain
      | some image, none, some view => .present view image quad
  | .ok .luma =>
    match c.bindings.renderTarget, c.params.image with
    | none, _ => .refuse .noRenderTarget
    | some _, none => .refuse .noSourceImage
    | some target, some image =>
      if target = image then .refuse .textureAliasing
      else .luma target image (c.params.colorVec 0)
  | .ok .chroma =>
    match c.bindings.renderTarget with
    | none => .refuse .noRenderTarget
    | some _ => .refuse (.unimplemented .chromaPlane)

theorem route_of_runs {p q : Program} (h : c.Runs p q) :
    c.route = match Route.ofPrograms? p q with
      | some r => .ok r
      | none => .error (.unhandledShaderPair p q) := by
  obtain ⟨vertex, fragment, hv, hf, hp, hq⟩ := h
  cases hr : Route.ofPrograms? p q with
  | some r => simp only [route, hv, hf, hp, hq, hr]
  | none => simp only [route, hv, hf, hp, hq, hr]

theorem ofPrograms?_eq_none {p q : Program}
    (h : ¬ (p = q ∧ (p = .defaultDraw ∨ p = .nv12Y ∨ p = .nv12Uv))) :
    Route.ofPrograms? p q = none := by
  unfold Route.ofPrograms?
  split
  · exact absurd ⟨rfl, .inl rfl⟩ h
  · exact absurd ⟨rfl, .inr (.inl rfl)⟩ h
  · exact absurd ⟨rfl, .inr (.inr rfl)⟩ h
  · rfl

/-- A program runs on its route only. -/
theorem runs_of_route {r : Route} (h : c.route = .ok r) :
    match r with
    | .texturedBlit => c.Runs .defaultDraw .defaultDraw
    | .luma => c.Runs .nv12Y .nv12Y
    | .chroma => c.Runs .nv12Uv .nv12Uv := by
  unfold route at h
  split at h
  · rename_i vertex fragment hv hf
    split at h
    · rename_i p q hp hq
      have hruns : c.Runs p q := ⟨vertex, fragment, hv, hf, hp, hq⟩
      unfold Route.ofPrograms? at h
      split at h
      · rename_i hr
        cases h
        split at hr <;> cases hr <;> exact hruns
      · cases h
    · cases h
  · cases h

/-- Without a route, the shaders are to blame. -/
theorem decides_of_route_error {e : Error} (h : c.route = .error e) :
    c.Decides mode start count (.refuse e) := by
  unfold route at h
  split at h
  · rename_i vertex fragment hv hf
    split at h
    · rename_i p q hp hq
      split at h
      · cases h
      · rename_i hr
        cases h
        refine .unhandledPair ⟨vertex, fragment, hv, hf, hp, hq⟩ ?_
        rintro ⟨rfl, rfl | rfl | rfl⟩ <;> cases hr
    · rename_i hknown
      cases h
      refine .unknownShader hv hf ?_
      cases hp : vertex.kind with
      | unknown => exact .inl rfl
      | known p stage =>
        cases hq : fragment.kind with
        | unknown => exact .inr rfl
        | known q stage' =>
          exact absurd (congrArg ShaderKind.program? hq)
            (hknown p q (congrArg ShaderKind.program? hp))
  · rename_i hnone
    cases h
    refine .missingShaders ?_
    cases hv : c.bindings.vertexShader with
    | none => exact .inl rfl
    | some vertex =>
      cases hf : c.bindings.fragmentShader with
      | none => exact .inr rfl
      | some fragment => exact absurd hf (hnone vertex fragment hv)

/-- The rectangles are missing for want of a buffer or for their shape. -/
theorem decides_of_quad_error {e : Error} (hruns : c.Runs .defaultDraw .defaultDraw)
    (h : c.quad mode start count = .error e) : c.Decides mode start count (.refuse e) := by
  cases hb : c.bindings.vertexBuffer with
  | none =>
    rw [quad, hb] at h
    cases h
    exact .noVertexBuffer hruns hb
  | some buffer =>
    have hshape := QuadGeometry.shapeOnly_ofDraw buffer c.transforms mode start count
    rw [← hb] at hshape
    obtain ⟨fault, rfl⟩ := hshape e h
    exact .notABlit hruns h

/-- **In every context a row applies.** -/
theorem decides_decision (c : DrawContext) (mode : DrawMode) (start count : UInt32) :
    c.Decides mode start count (c.decision mode start count) := by
  unfold decision
  split
  · exact decides_of_route_error (by assumption)
  · have hruns := runs_of_route (by assumption)
    split
    · exact decides_of_quad_error hruns (by assumption)
    · rename_i hquad
      split
      · exact .noSourceImage hruns hquad (by assumption)
      · split
        · rename_i heq
          subst heq
          exact .ontoItself hruns hquad (by assumption) (by assumption)
        · exact .blit hruns hquad (by assumption) (by assumption) (by assumption)
      · exact .noSwapchain hruns hquad (by assumption) (by assumption) (by assumption)
      · exact .present hruns hquad (by assumption) (by assumption) (by assumption)
  · have hruns := runs_of_route (by assumption)
    split
    · exact .noLumaTarget hruns (by assumption)
    · exact .noLumaImage hruns (by assumption) (by assumption)
    · split
      · rename_i heq
        subst heq
        exact .lumaOntoItself hruns (by assumption) (by assumption)
      · exact .luma hruns (by assumption) (by assumption) (by assumption)
  · have hruns := runs_of_route (by assumption)
    split
    · exact .noChromaTarget hruns (by assumption)
    · exact .chroma hruns (by assumption)

/-- **No other row applies.** -/
theorem eq_decision_of_decides (h : c.Decides mode start count d) :
    d = c.decision mode start count := by
  cases h with
  | missingShaders h =>
    have hroute : c.route = .error .missingShaders := by
      unfold route
      split
      · rename_i hv hf
        rw [hv, hf] at h
        rcases h with h | h <;> cases h
      · rfl
    simp only [decision, hroute]
  | @unknownShader vertex fragment hv hf h =>
    have hroute : c.route = .error (.unknownShader vertex.file fragment.file) := by
      simp only [route, hv, hf]
      split
      · rename_i hp hq
        rcases h with h | h
        · rw [h] at hp; cases hp
        · rw [h] at hq; cases hq
      · rfl
    simp only [decision, hroute]
  | unhandledPair hruns h =>
    simp only [decision, route_of_runs hruns, ofPrograms?_eq_none h]
  | noVertexBuffer hruns hb =>
    have hquad : c.quad mode start count = .error .noVertexBuffer := by rw [quad, hb]; rfl
    simp only [decision, route_of_runs hruns, Route.ofPrograms?, hquad]
  | notABlit hruns hquad => simp only [decision, route_of_runs hruns, Route.ofPrograms?, hquad]
  | noSourceImage hruns hquad hi =>
    simp only [decision, route_of_runs hruns, Route.ofPrograms?, hquad, hi]
  | ontoItself hruns hquad hi ht =>
    simp only [decision, route_of_runs hruns, Route.ofPrograms?, hquad, hi, ht, if_pos]
  | blit hruns hquad hi ht hne =>
    simp only [decision, route_of_runs hruns, Route.ofPrograms?, hquad, hi, ht, if_neg hne]
  | noSwapchain hruns hquad hi ht hs =>
    simp only [decision, route_of_runs hruns, Route.ofPrograms?, hquad, hi, ht, hs]
  | present hruns hquad hi ht hs =>
    simp only [decision, route_of_runs hruns, Route.ofPrograms?, hquad, hi, ht, hs]
  | noLumaTarget hruns ht => simp only [decision, route_of_runs hruns, Route.ofPrograms?, ht]
  | noLumaImage hruns ht hi =>
    simp only [decision, route_of_runs hruns, Route.ofPrograms?, ht, hi]
  | lumaOntoItself hruns ht hi =>
    simp only [decision, route_of_runs hruns, Route.ofPrograms?, ht, hi, if_pos]
  | luma hruns ht hi hne =>
    simp only [decision, route_of_runs hruns, Route.ofPrograms?, ht, hi, if_neg hne]
  | noChromaTarget hruns ht => simp only [decision, route_of_runs hruns, Route.ofPrograms?, ht]
  | chroma hruns ht => simp only [decision, route_of_runs hruns, Route.ofPrograms?, ht]

theorem decides_iff : c.Decides mode start count d ↔ d = c.decision mode start count := by
  constructor
  · exact eq_decision_of_decides
  · rintro rfl
    exact decides_decision c mode start count

/-- Only a blit goes to a view. -/
theorem decision_ne_present (h : c.route ≠ .ok .texturedBlit) (mode : DrawMode)
    (start count : UInt32) (view : ViewId) (image : TextureId) (quad : QuadGeometry) :
    c.decision mode start count ≠ .present view image quad := by
  intro hd
  have hrow := c.decides_decision mode start count
  rw [hd] at hrow
  cases hrow with
  | present hruns _ _ _ _ => exact h (route_of_runs hruns)

/-- What is told before a decision is carried out: the route, if there is one. -/
def told (c : DrawContext) : Log :=
  match c.route with
  | .ok route => [.drawing route]
  | .error _ => []

/-- An emulation does what is decided. -/
theorem emulate_eq (c : DrawContext) (m : Memory) (mode : DrawMode) (start count : UInt32)
    {r : Route} (h : c.route = .ok r) :
    c.emulate m mode start count r = (c.decision mode start count).result m := by
  unfold decision
  rw [h]
  cases r with
  | texturedBlit =>
    change (c.quad mode start count >>= fun quad => _) = _
    cases c.quad mode start count with
    | error e => rfl
    | ok quad =>
      rw [ok_bind, boundImage]
      cases c.params.image with
      | none => rfl
      | some image =>
        dsimp only
        rw [ok_bind]
        cases c.bindings.renderTarget with
        | some target =>
          by_cases heq : target = image
          · simp only [if_pos heq]
            rfl
          · simp only [if_neg heq]
            rfl
        | none => cases c.swapchain <;> rfl
  | luma =>
    change (c.boundTarget >>= fun target => _) = _
    rw [boundTarget]
    cases c.bindings.renderTarget with
    | none => rfl
    | some target =>
      dsimp only
      rw [ok_bind, boundImage]
      cases c.params.image with
      | none => rfl
      | some image =>
        dsimp only
        rw [ok_bind]
        by_cases heq : target = image
        · simp only [if_pos heq]
          rfl
        · simp only [if_neg heq]
          rfl
  | chroma =>
    change (c.boundTarget >>= fun _ => _) = _
    rw [boundTarget]
    cases c.bindings.renderTarget <;> rfl

end DrawContext

/-! ## Draws do what is decided -/

namespace Session

/-- **A draw comes to what is decided**, and tells its route first. -/
theorem draw_eq (s : Session) (mode : DrawMode) (start count : UInt32) :
    s.draw mode start count =
      s.commit s.context.told ((s.context.decision mode start count).result s.memory) := by
  unfold draw DrawContext.told
  cases hroute : s.context.route with
  | error e =>
    have hd : s.context.decision mode start count = .refuse e := by
      simp only [DrawContext.decision, hroute]
    rw [hd]
    rfl
  | ok route => simp only [s.context.emulate_eq s.memory mode start count hroute]

end Session

namespace Workspace

open InPlace

/-- Blits the bound image where the quad says, with any procedure where a view is blitted to. -/
def blitThrough (present : ViewId → TextureId → QuadGeometry → InPlace Workspace Unit)
    (mode : DrawMode) (start count : UInt32) : InPlace Workspace Unit := do
  let c ← context
  let quad ← ofExcept (c.quad mode start count)
  let image ← ofExcept c.boundImage
  match c.bindings.renderTarget with
  | some target =>
    if target = image then refuse .textureAliasing
    else transfer (.texture target) image fun src => Canvas.blit src quad.src quad.dst
  | none =>
    match c.swapchain with
    | some view => present view image quad
    | none => refuse .noSwapchain

/-- A draw, with any procedure where a view is blitted to. -/
def drawThrough (present : ViewId → TextureId → QuadGeometry → InPlace Workspace Unit)
    (mode : DrawMode) (start count : UInt32) : InPlace Workspace Unit := do
  let route ← ofExcept (← context).route
  tell (.drawing route)
  match route with
  | .texturedBlit => blitThrough present mode start count
  | .luma => luma
  | .chroma => chroma

/-- Blits into the output of a view. -/
def blitToView (view : ViewId) (image : TextureId) (quad : QuadGeometry) :
    InPlace Workspace Unit :=
  transfer (.output view) image fun src => Canvas.blit src quad.src quad.dst

theorem draw_eq_drawThrough : draw = drawThrough blitToView := rfl

/-- How a decision is carried out, with a procedure where a view is blitted to. -/
def carryOut (present : ViewId → TextureId → QuadGeometry → InPlace Workspace Unit)
    (w : Workspace) : Decision → Checked (Except Error Unit × Workspace)
  | .present view image quad => (present view image quad).run w
  | d => .ok (w.endUp (d.result w.session.memory))

variable {w : Workspace}

theorem run_blitThrough (hidle : w.Idle)
    (present : ViewId → TextureId → QuadGeometry → InPlace Workspace Unit) {mode : DrawMode}
    {start count : UInt32} (hroute : w.session.context.route = .ok .texturedBlit) :
    (blitThrough present mode start count).run w =
      w.carryOut present (w.session.context.decision mode start count) := by
  unfold DrawContext.decision blitThrough
  simp only [hroute, run_bind, run_context, andThen_ok, run_ofExcept, DrawContext.boundImage]
  cases hquad : w.session.context.quad mode start count with
  | error e => rfl
  | ok quad =>
    obtain ⟨hs, hd⟩ := QuadGeometry.inRange_ofDraw hquad
    cases w.session.context.params.image with
    | none => rfl
    | some image =>
      simp only [andThen_ok, run_bind, run_ofExcept]
      cases w.session.context.bindings.renderTarget with
      | some target =>
        by_cases heq : target = image
        · simp only [if_pos heq, run_refuse]
          rfl
        · have hne : Surface.texture target ≠ .texture image :=
            fun h => heq (Surface.texture.inj h)
          simp only [if_neg heq, run_transfer_blit hidle hne hs hd]
          rw [carryOut, Decision.result, Memory.blitToTexture_eq]
          · rfl
          · intro view image quad h
            cases h
      | none => cases w.session.context.swapchain <;> rfl

/-- Only a blit depends on what views do. -/
theorem carryOut_decision
    (present : ViewId → TextureId → QuadGeometry → InPlace Workspace Unit) (mode : DrawMode)
    (start count : UInt32) {r : Route} (hroute : w.session.context.route = .ok r)
    (hr : r ≠ .texturedBlit) :
    w.carryOut present (w.session.context.decision mode start count) =
      .ok (w.endUp (w.session.context.emulate w.session.memory mode start count r)) := by
  have hview := DrawContext.decision_ne_present (c := w.session.context)
    (by rw [hroute]; exact fun h => hr (Except.ok.inj h)) mode start count
  rw [w.session.context.emulate_eq _ mode start count hroute]
  generalize w.session.context.decision mode start count = d at hview
  cases d with
  | present view image quad => exact absurd rfl (hview view image quad)
  | _ => rfl

/-- **A draw that is carried out does what is decided**, whatever views do. -/
theorem run_drawThrough (hidle : w.Idle)
    (present : ViewId → TextureId → QuadGeometry → InPlace Workspace Unit) (mode : DrawMode)
    (start count : UInt32) :
    (drawThrough present mode start count).run w =
      (w.hearing w.session.context.told).carryOut present
        (w.session.context.decision mode start count) := by
  unfold DrawContext.told drawThrough
  simp only [run_bind, run_context, andThen_ok, run_ofExcept]
  cases hroute : w.session.context.route with
  | error e =>
    simp only [andThen_error, hearing, List.append_nil, DrawContext.decision, hroute]
    rfl
  | ok route =>
    have hidle' : (w.hearing [.drawing route]).Idle := hidle
    simp only [andThen_ok, run_bind, run_tell]
    cases route with
    | texturedBlit => exact run_blitThrough hidle' present hroute
    | luma =>
      have hplane := carryOut_decision (w := w.hearing [.drawing .luma]) present mode
        start count hroute (by decide)
      exact (run_luma hidle').trans hplane.symm
    | chroma =>
      have hplane := carryOut_decision (w := w.hearing [.drawing .chroma]) present mode
        start count hroute (by decide)
      exact (run_chroma (w.hearing [.drawing .chroma])).trans hplane.symm

end Workspace

/-! ## Planes -/

namespace DrawContext

variable {c c' : DrawContext}

/-- All that is bound for a plane. -/
def planeInputs (c : DrawContext) :
    (Option Shader × Option Shader) × Option TextureId × Option TextureId × Vec4 Float32 :=
  ((c.bindings.vertexShader, c.bindings.fragmentShader), c.bindings.renderTarget, c.params.image,
    c.params.colorVec 0)

/-- What is bound for a plane decides, and nothing else. -/
theorem decision_of_planeInputs (hruns : c.Runs .nv12Y .nv12Y ∨ c.Runs .nv12Uv .nv12Uv)
    (h : c'.planeInputs = c.planeInputs) (mode mode' : DrawMode)
    (start start' count count' : UInt32) :
    c'.decision mode' start' count' = c.decision mode start count := by
  simp only [planeInputs, Prod.mk.injEq] at h
  obtain ⟨⟨hvertex, hfragment⟩, htarget, himage, hcolor⟩ := h
  have hroute : c'.route = c.route := by simp only [route, hvertex, hfragment]
  rcases hruns with hruns | hruns
  · simp only [decision, hroute, route_of_runs hruns, Route.ofPrograms?, htarget, himage, hcolor]
  · simp only [decision, hroute, route_of_runs hruns, Route.ofPrograms?, htarget]

theorem route_ne_texturedBlit (hruns : c.Runs .nv12Y .nv12Y ∨ c.Runs .nv12Uv .nv12Uv) :
    c.route ≠ .ok .texturedBlit := by
  intro h
  rcases hruns with hruns | hruns
  · rw [route_of_runs hruns] at h
    cases h
  · rw [route_of_runs hruns] at h
    cases h

end DrawContext

/-- What goes to no view depends on textures only, and changes nothing else. -/
theorem Decision.result_of_textures {m m' : Memory} {d : Decision}
    (hd : ∀ view image quad, d ≠ .present view image quad) (h : m'.textures = m.textures) :
    d.result m' = (d.result m).map fun a => ({ m' with textures := a.1.textures }, a.2) := by
  have htexture : ∀ id, m'.texture id = m.texture id := by
    intro id
    rw [Memory.texture, h]
    rfl
  cases d with
  | refuse e => rfl
  | blit target image quad =>
    simp only [result, Memory.blitToTexture_eq, htexture]
    cases BlitDevice.blit (m.texture image) (m.texture target) quad.src quad.dst with
    | error e => rfl
    | ok a => simp only [Memory.storing, Except.map, Memory.store, Memory.setTexture, h]
  | present view image quad => exact absurd rfl (hd view image quad)
  | luma target image color =>
    simp only [result, htexture]
    cases convertToLuma (m.texture image) (m.texture target) color with
    | error e => rfl
    | ok plane => simp only [ok_bind, Memory.setTexture, h]; rfl

/-! ## Draws -/

namespace Session

/-- What is answered where a call commits. -/
theorem answer_commit (s : Session) (told : Log) (r : Except Error (Memory × Log)) :
    (s.commit told r).unit.answer = r.map fun _ => .done := by
  cases r <;> rfl

/-- What is left where a call commits: the memory that was come to, or the one there was. -/
theorem session_commit (s : Session) (told : Log) (r : Except Error (Memory × Log)) :
    (s.commit told r).unit.session =
      { s with memory := match r with | .ok (m, _) => m | .error _ => s.memory } := by
  cases r <;> rfl

theorem answer_draw (s : Session) (mode : DrawMode) (start count : UInt32) :
    (s.step (.draw mode start count)).answer =
      ((s.context.decision mode start count).result s.memory).map fun _ => .done := by
  change (s.draw mode start count).unit.answer = _
  rw [draw_eq, answer_commit]

theorem session_draw (s : Session) (mode : DrawMode) (start count : UInt32) :
    (s.step (.draw mode start count)).session = { s with
      memory := match (s.context.decision mode start count).result s.memory with
        | .ok (m, _) => m
        | .error _ => s.memory } := by
  change (s.draw mode start count).unit.session = _
  rw [draw_eq, session_commit]

end Session

/-- **Draws follow the table.** In every state and for every mode, start and count exactly one row
applies. What the draw answers and the memory it leaves are what comes of that decision; without an
answer every surface is as it was.

A draw is carried out with a procedure that blits to a view. Whatever procedure that is, it is handed
the view, the image and the rectangles where the table says so, and nothing else is done then.

Planes depend on the shaders, the render target, the bound image, the first colour vector and the
textures, and change textures only. -/
theorem draw_follows_table (s : Session) (mode : DrawMode) (start count : UInt32) :
    ∃ d, (∀ d', s.context.Decides mode start count d' ↔ d' = d) ∧
      (s.step (.draw mode start count)).answer = (d.result s.memory).map (fun _ => .done) ∧
      (s.step (.draw mode start count)).session = { s with
        memory := match d.result s.memory with
          | .ok (m, _) => m
          | .error _ => s.memory } ∧
      Workspace.draw = Workspace.drawThrough Workspace.blitToView ∧
      (∀ present w, w.Idle → w.session = s →
        (Workspace.drawThrough present mode start count).run w =
          (w.hearing s.context.told).carryOut present d) ∧
      ∀ (s' : Session) mode' start' count',
        s.context.Runs .nv12Y .nv12Y ∨ s.context.Runs .nv12Uv .nv12Uv →
        s'.context.planeInputs = s.context.planeInputs →
        s'.memory.textures = s.memory.textures →
        (s'.step (.draw mode' start' count')).answer = (s.step (.draw mode start count)).answer ∧
          (s'.step (.draw mode' start' count')).session.memory = { s'.memory with
            textures := (s.step (.draw mode start count)).session.memory.textures } := by
  refine ⟨s.context.decision mode start count, fun d' => DrawContext.decides_iff,
    s.answer_draw mode start count, s.session_draw mode start count,
    Workspace.draw_eq_drawThrough, ?_, ?_⟩
  · rintro present w hidle rfl
    exact Workspace.run_drawThrough hidle present mode start count
  · intro s' mode' start' count' hruns hinputs htextures
    have hd :=
      DrawContext.decision_of_planeInputs hruns hinputs mode mode' start start' count count'
    have hview := DrawContext.decision_ne_present (DrawContext.route_ne_texturedBlit hruns) mode
      start count
    have hresult := Decision.result_of_textures hview htextures
    rw [Session.answer_draw, Session.answer_draw, Session.session_draw, Session.session_draw, hd,
      hresult]
    cases (s.context.decision mode start count).result s.memory with
    | error e => exact ⟨rfl, by rw [← htextures]; rfl⟩
    | ok a => exact ⟨rfl, rfl⟩

/-- A device that is to compute a luma plane onto the texture it is computed from. No vertex buffer
is bound. -/
def lumaOntoSource : Session where
  device := {
    context := {
      bindings := {
        vertexShader := some ⟨.known .nv12Y .vertex, .vertex, "format_conversion.effect", ""⟩
        fragmentShader := some ⟨.known .nv12Y .fragment, .fragment, "format_conversion.effect", ""⟩
        renderTarget := some ⟨0⟩ }
      params := { image := some ⟨0⟩, colorVecs := Vector.replicate 3 Vec4.zero } } }
  memory := { textures := #[twoPixels] }

/-- It refuses, whatever the mode, and whether or not there is a view. -/
theorem lumaOntoSource_follows_table :
    (lumaOntoSource.step (.draw .triStrip 0 0)).answer = .error .textureAliasing ∧
    (∃ w, (Workspace.drawThrough (fun _ _ _ => InPlace.refuse .noSwapchain) .triStrip 0 0).run
        { session := lumaOntoSource } = .ok (.error .textureAliasing, w) ∧
      w.session = lumaOntoSource) ∧
    ((lumaOntoSource.loadSwapchain (some ⟨0⟩)).session.step (.draw .points 3 17)).answer =
      .error .textureAliasing := by
  have hruns : lumaOntoSource.context.Runs .nv12Y .nv12Y := ⟨_, _, rfl, rfl, rfl, rfl⟩
  have hrow : lumaOntoSource.context.Decides .triStrip 0 0 (.refuse .textureAliasing) :=
    .lumaOntoItself hruns rfl rfl
  obtain ⟨d, hiff, hanswer, _, _, hthrough, hplanes⟩ :=
    draw_follows_table lumaOntoSource .triStrip 0 0
  obtain rfl := (hiff _).mp hrow
  obtain ⟨hanswer', _⟩ := hplanes (lumaOntoSource.loadSwapchain (some ⟨0⟩)).session .points 3 17
    (.inl hruns) rfl rfl
  exact ⟨hanswer, ⟨_, hthrough _ { session := lumaOntoSource } (fun _ => rfl) rfl, rfl⟩,
    hanswer'.trans hanswer⟩

end BlitDevice
