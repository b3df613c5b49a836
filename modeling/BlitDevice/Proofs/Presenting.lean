import BlitDevice.Proofs.Bare
import BlitDevice.Proofs.Runs

/-!
# Drawing to a view

A draw without a render target goes to the output of the loaded view. It comes to what it would come
to with a texture like that output as the render target.

* `Session.toView`, `Session.toTexture` — one session, set up in the two ways.
* `Memory.Mirrors`, `Session.Mirrors` — two memories, and two sessions, that differ in where draws
  go and nowhere else, and there by usage and name only.
* `Call.keeps`, `Session.Follows` — the runs for which they stay so: draws, and whatever leaves
  alone the texture, the view and where draws go.
* `Session.mirrors_step`, `Session.mirrors_run` — one call, and a run.
* `drawing_to_view_agrees` — what follows for one session set up in the two ways.
-/

set_option autoImplicit false

namespace BlitDevice

/-! ## Two memories -/

theorem Engine.said_of_bare {e : Engine} {m : Memory} {t u : Texture} (h : t.bare = u.bare) :
    (e.result m t).map Prod.snd = (e.result m u).map Prod.snd := by
  obtain ⟨hsize, hformat, _, _⟩ := Texture.bare_eq_iff.mp h
  exact e.answers_eq hsize hformat m

/-- Textures that are alike but for usage and name are so when they are painted. -/
theorem Engine.painted_of_bare {e : Engine} {m : Memory} {t u : Texture} (h : t.bare = u.bare) :
    (e.painted m t).bare = (e.painted m u).bare := by
  have hbare : ∀ v : Texture, (e.painted m v).bare = e.painted m.bare v.bare := by
    intro v
    rw [painted, painted, result_bare]
    cases e.result m v <;> rfl
  rw [hbare, hbare, h]

namespace Memory

variable {m m' : Memory} {f g dst : Surface} {t u : Texture} {view : ViewId} {target : TextureId}

/-- The texture of the second memory is like the output of the first one's view but for usage and
name; everywhere else the memories hold the same. -/
structure Mirrors (m m' : Memory) (view : ViewId) (target : TextureId) : Prop where
  has_view : m.Has (.output view)
  has_target : m'.Has (.texture target)
  bare_eq : (m.load (.output view)).bare = (m'.load (.texture target)).bare
  load_eq : ∀ f, f ≠ .output view → f ≠ .texture target → m'.load f = m.load f
  textures_size : m'.textures.size = m.textures.size
  stages_size : m'.stages.size = m.stages.size

namespace Mirrors

/-- A memory mirrors itself in a texture that is like a view's output. -/
theorem self (hview : m.Has (.output view)) (htarget : m.Has (.texture target))
    (h : (m.load (.output view)).bare = (m.load (.texture target)).bare) :
    m.Mirrors m view target :=
  ⟨hview, htarget, h, fun _ _ _ => rfl, rfl, rfl⟩

/-- The view and the texture are given pixels that are alike. -/
theorem store_both (h : m.Mirrors m' view target) (htu : t.bare = u.bare) :
    (m.store (.output view) t).Mirrors (m'.store (.texture target) u) view target := by
  refine ⟨has_store.mpr h.has_view, has_store.mpr h.has_target, ?_, ?_, ?_, ?_⟩
  · rw [load_store_self h.has_view, load_store_self h.has_target, htu]
  · intro f hf hf'
    rw [load_store_of_ne hf.symm, load_store_of_ne hf'.symm, h.load_eq f hf hf']
  · simp only [store, setTexture, setView, Array.size_setIfInBounds, h.textures_size]
  · exact h.stages_size

/-- Any other texture or stage surface is given the same pixels in both. -/
theorem store_same (h : m.Mirrors m' view target) (hdst : dst.isOutput = false)
    (hne : dst ≠ .texture target) (t : Texture) :
    (m.store dst t).Mirrors (m'.store dst t) view target := by
  have hne' : dst ≠ .output view := by
    rintro rfl
    cases hdst
  have hhas : m'.Has dst ↔ m.Has dst := by
    cases dst with
    | texture id => rw [Has, Has, h.textures_size]
    | stage id => rw [Has, Has, h.stages_size]
    | output id => cases hdst
  refine ⟨has_store.mpr h.has_view, has_store.mpr h.has_target, ?_, ?_, ?_, ?_⟩
  · rw [load_store_of_ne hne, load_store_of_ne hne', h.bare_eq]
  · intro f hf hf'
    simp only [load_store, h.load_eq f hf hf', hhas]
  · cases dst with
    | texture id => simp only [store, setTexture, Array.size_setIfInBounds, h.textures_size]
    | stage id => exact h.textures_size
    | output id => exact h.textures_size
  · cases dst with
    | texture id => exact h.stages_size
    | stage id => simp only [store, setStage, Array.size_setIfInBounds, h.stages_size]
    | output id => exact h.stages_size

/-- A texture is taken into both. -/
theorem addTexture (h : m.Mirrors m' view target) (t : Texture) :
    (m.addTexture t).1.Mirrors (m'.addTexture t).1 view target ∧
      (m'.addTexture t).2 = (m.addTexture t).2 := by
  have hid : (m'.addTexture t).2 = (m.addTexture t).2 := congrArg TextureId.mk h.textures_size
  have hnew : Surface.texture target ≠ .texture (m'.addTexture t).2 := by
    intro e
    cases e
    exact Nat.lt_irrefl _ h.has_target
  refine ⟨⟨h.has_view, has_addTexture.mpr (.inl h.has_target), ?_, ?_, ?_, h.stages_size⟩, hid⟩
  · rw [load_addTexture_eq m', if_neg hnew]
    exact h.bare_eq
  · intro f hf hf'
    rw [load_addTexture_eq, load_addTexture_eq, hid, h.load_eq f hf hf']
  · simp only [Memory.addTexture, Array.size_push, h.textures_size]

/-- A stage surface is taken into both. -/
theorem addStage (h : m.Mirrors m' view target) (a : StageSurface) :
    (m.addStage a).1.Mirrors (m'.addStage a).1 view target ∧
      (m'.addStage a).2 = (m.addStage a).2 := by
  have hid : (m'.addStage a).2 = (m.addStage a).2 := congrArg StageId.mk h.stages_size
  refine ⟨⟨h.has_view, h.has_target, h.bare_eq, ?_, h.textures_size, ?_⟩, hid⟩
  · intro f hf hf'
    rw [load_addStage_eq, load_addStage_eq, hid, h.load_eq f hf hf']
  · simp only [Memory.addStage, Array.size_push, h.stages_size]

end Mirrors

end Memory

/-! ## Tasks in both -/

namespace Task

variable {m m' : Memory} {view : ViewId} {target : TextureId} {dst : Surface} {e : Engine}

/-- An engine reads the same in both, unless it reads where they differ. -/
theorem result_mirrors (h : m.Mirrors m' view target) (hview : e.source ≠ some (.output view))
    (htarget : e.source ≠ some (.texture target)) (t : Texture) :
    e.result m' t = e.result m t := by
  refine Engine.result_congr (fun f hf => h.load_eq f ?_ ?_) t
  · rintro rfl
    exact hview hf
  · rintro rfl
    exact htarget hf

/-- An engine set to another surface does the same in both. -/
theorem set_mirrors_same (h : m.Mirrors m' view target) (hdst : dst.isOutput = false)
    (hne : dst ≠ .texture target) (hview : e.source ≠ some (.output view))
    (htarget : e.source ≠ some (.texture target)) :
    (set dst e).said m' = (set dst e).said m ∧
      ((set dst e).next m).Mirrors ((set dst e).next m') view target := by
  unfold set
  split
  · exact ⟨rfl, h⟩
  · have hload : m'.load dst = m.load dst := by
      refine h.load_eq dst ?_ hne
      rintro rfl
      cases hdst
    have hresult := result_mirrors h hview htarget (m.load dst)
    rw [said_paint, said_paint, next_paint, next_paint, Engine.painted, Engine.painted, hload,
      hresult]
    exact ⟨rfl, h.store_same hdst hne _⟩

/-- An engine set to the view in one and to the texture in the other does the same to both. -/
theorem set_mirrors_both (h : m.Mirrors m' view target) (hview : e.source ≠ some (.output view))
    (htarget : e.source ≠ some (.texture target)) :
    (set (.texture target) e).said m' = (set (.output view) e).said m ∧
      ((set (.output view) e).next m).Mirrors ((set (.texture target) e).next m') view target := by
  have hresult := result_mirrors h hview htarget (m'.load (.texture target))
  rw [set, dif_neg htarget, set, dif_neg hview, said_paint, said_paint, next_paint, next_paint]
  constructor
  · rw [hresult]
    exact Engine.said_of_bare h.bare_eq.symm
  · refine h.store_both ?_
    rw [Engine.painted_of_bare h.bare_eq, Engine.painted, Engine.painted, hresult]

end Task

/-! ## Two sessions -/

namespace DrawContext

/-- Draws go to a view. -/
def toView (c : DrawContext) (view : ViewId) : DrawContext :=
  { c with bindings := { c.bindings with renderTarget := none }, swapchain := some view }

/-- Draws go to a texture. -/
def toTexture (c : DrawContext) (target : TextureId) : DrawContext :=
  { c with bindings := { c.bindings with renderTarget := some target } }

/-- A blit that does not read the texture is decided alike. -/
theorem task_draw_mirrors {c : DrawContext} {target : TextureId} (view : ViewId)
    (hruns : c.Runs .defaultDraw .defaultDraw) (himage : c.params.image ≠ some target)
    (mode : DrawMode) (start count : UInt32) :
    (∃ e, (c.toView view).task (.draw mode start count) = .refuse e ∧
      (c.toTexture target).task (.draw mode start count) = .refuse e) ∨
    ∃ image srcRect dstRect, image ≠ target ∧
      (c.toView view).task (.draw mode start count) =
        .set (.output view) (.blit image srcRect dstRect) ∧
      (c.toTexture target).task (.draw mode start count) =
        .set (.texture target) (.blit image srcRect dstRect) := by
  have hview : (c.toView view).Runs .defaultDraw .defaultDraw := hruns
  have htexture : (c.toTexture target).Runs .defaultDraw .defaultDraw := hruns
  simp only [task]
  cases hquad : c.quad mode start count with
  | error e =>
    left
    refine ⟨e, ?_, ?_⟩
    · rw [← eq_decision_of_decides (decides_of_quad_error hview hquad)]
      rfl
    · rw [← eq_decision_of_decides (decides_of_quad_error htexture hquad)]
      rfl
  | ok quad =>
    cases hi : c.params.image with
    | none =>
      left
      refine ⟨.noSourceImage, ?_, ?_⟩
      · rw [← eq_decision_of_decides (.noSourceImage hview hquad hi)]
        rfl
      · rw [← eq_decision_of_decides (.noSourceImage htexture hquad hi)]
        rfl
    | some image =>
      right
      have hne : target ≠ image := by
        rintro rfl
        exact himage hi
      refine ⟨image, fun _ => quad.src, fun _ => quad.dst, hne.symm, ?_, ?_⟩
      · rw [← eq_decision_of_decides (.present hview hquad hi rfl rfl)]
        rfl
      · rw [← eq_decision_of_decides (.blit htexture hquad hi rfl hne)]
        rfl

end DrawContext

/-- The call leaves alone the texture, all views, and where draws go. -/
def Call.keeps (target : TextureId) : Call → Bool
  | .setRenderTarget _ | .loadSwapchain _ | .clear .. | .draw .. => false
  | .present | .resize _ | .outputSize => false
  | .copyTexture dst src | .copyRegion dst src _ => dst != target && src != target
  | .stageTexture _ src => src != target
  | _ => true

namespace Session

variable {s s' : Session} {view : ViewId} {target : TextureId} {c : Call} {cs : List Call}

/-- The session, with draws going to a view. -/
def toView (s : Session) (view : ViewId) : Session := s.modifyContext (·.toView view)

/-- The session, with draws going to a texture. -/
def toTexture (s : Session) (target : TextureId) : Session := s.modifyContext (·.toTexture target)

/-- Draws go to a view in the first session, to a texture that is like its output in the second, and
the sessions are alike in everything else. -/
structure Mirrors (s s' : Session) (view : ViewId) (target : TextureId) : Prop where
  contexts : ∃ c : DrawContext, s.context = c.toView view ∧ s'.context = c.toTexture target
  memories : s.memory.Mirrors s'.memory view target

/-- A change to what both depend on. -/
theorem mirrors_modifyContext {f : DrawContext → DrawContext}
    (hview : ∀ c, f (c.toView view) = (f c).toView view)
    (htexture : ∀ c, f (c.toTexture target) = (f c).toTexture target)
    (h : s.Mirrors s' view target) :
    (s.modifyContext f).Mirrors (s'.modifyContext f) view target := by
  obtain ⟨c, hc, hc'⟩ := h.contexts
  refine ⟨⟨f c, ?_, ?_⟩, h.memories⟩
  · exact (congrArg f hc).trans (hview c)
  · exact (congrArg f hc').trans (htexture c)

end Session

/-- Two outcomes say the same, and the sessions they leave are alike. -/
def Outcome.Mirrors (o o' : Outcome Answer) (view : ViewId) (target : TextureId) : Prop :=
  o'.said = o.said ∧ o.session.Mirrors o'.session view target

namespace Session

variable {s s' : Session} {view : ViewId} {target : TextureId} {c : Call} {cs : List Call}

/-- A call that answers after such a change. -/
theorem mirrors_done {α : Type} {f : DrawContext → DrawContext}
    (hview : ∀ c, f (c.toView view) = (f c).toView view)
    (htexture : ∀ c, f (c.toTexture target) = (f c).toTexture target)
    (h : s.Mirrors s' view target) (a : α) (log : Log) (g : α → Answer) :
    (((s.modifyContext f).done a log).map g).Mirrors (((s'.modifyContext f).done a log).map g) view
      target :=
  ⟨rfl, mirrors_modifyContext hview htexture h⟩

theorem mirrors_fail {α : Type} (h : s.Mirrors s' view target) (e : Error) (log : Log)
    (g : α → Answer) : ((s.fail e log).map g).Mirrors ((s'.fail e log).map g) view target :=
  ⟨rfl, h⟩

theorem mirrors_paints (h : s.Mirrors s' view target) (hc : c.paints = true)
    (htells : s'.context.tells c = s.context.tells c)
    (hsaid : (s'.context.task c).said s'.memory = (s.context.task c).said s.memory)
    (hnext : ((s.context.task c).next s.memory).Mirrors ((s'.context.task c).next s'.memory)
      view target) : (s.step c).Mirrors (s'.step c) view target := by
  constructor
  · rw [said_step s' hc, said_step s hc, htells, hsaid]
  · rw [session_paints s hc, session_paints s' hc]
    exact ⟨h.contexts, hnext⟩

theorem mirrors_keepTexture (h : s.Mirrors s' view target) (r : Except Error Texture) :
    ((s.keepTexture r).map .texture).Mirrors ((s'.keepTexture r).map .texture) view target := by
  cases r with
  | error e => exact mirrors_fail h e [] _
  | ok t =>
    obtain ⟨hmemories, hid⟩ := h.memories.addTexture t
    refine ⟨?_, h.contexts, hmemories⟩
    exact congrArg (fun id => (Except.ok (Answer.texture id), [])) hid

theorem mirrors_createStage (h : s.Mirrors s' view target) (size : Size) (format : PixelFormat) :
    ((s.createStage size format).map .stage).Mirrors ((s'.createStage size format).map .stage) view
      target := by
  unfold createStage
  cases StageSurface.create size format with
  | error e => exact mirrors_fail h e [] _
  | ok a =>
    obtain ⟨hmemories, hid⟩ := h.memories.addStage a
    refine ⟨?_, h.contexts, hmemories⟩
    exact congrArg (fun id => (Except.ok (Answer.stage id), [])) hid

theorem mirrors_popProjection (h : s.Mirrors s' view target) :
    s.popProjection.unit.Mirrors s'.popProjection.unit view target := by
  obtain ⟨c, hc, hc'⟩ := h.contexts
  have hsaved : s.context.transforms.saved = c.transforms.saved := by
    rw [hc]
    rfl
  have hsaved' : s'.context.transforms.saved = c.transforms.saved := by
    rw [hc']
    rfl
  unfold popProjection
  rw [hsaved, hsaved']
  cases c.transforms.saved with
  | nil => exact mirrors_fail h .projectionStackEmpty [] _
  | cons m rest => exact mirrors_done (fun _ => rfl) (fun _ => rfl) h _ _ _

theorem mirrors_setParam (h : s.Mirrors s' view target) (param : ShaderParam)
    (value : ParamValue TextureId) :
    (s.setParam param value).unit.Mirrors (s'.setParam param value).unit view target := by
  obtain ⟨c, hc, hc'⟩ := h.contexts
  have hparams : s'.context.params = s.context.params := by
    rw [hc, hc']
    rfl
  unfold setParam
  rw [hparams]
  exact mirrors_done (fun _ => rfl) (fun _ => rfl) h _ _ _

/-- A copy between other surfaces does the same in both. -/
theorem mirrors_copy (h : s.Mirrors s' view target) {dst : Surface} {e : Engine} {src : TextureId}
    (hpaints : c.paints = true) (htells : ∀ d : DrawContext, d.tells c = [])
    (htask : ∀ d : DrawContext, d.task c = .set dst e) (hdst : dst.isOutput = false)
    (hne : dst ≠ .texture target) (he : e.source = some (.texture src)) (hsrc : src ≠ target) :
    (s.step c).Mirrors (s'.step c) view target := by
  have hview : e.source ≠ some (.output view) := by
    rw [he]
    intro h
    cases h
  have htarget : e.source ≠ some (.texture target) := by
    rw [he]
    intro h
    cases h
    exact hsrc rfl
  obtain ⟨hsaid, hnext⟩ := Task.set_mirrors_same h.memories hdst hne hview htarget
  refine mirrors_paints h hpaints ?_ ?_ ?_
  · rw [htells, htells]
  · rw [htask, htask]
    exact hsaid
  · rw [htask, htask]
    exact hnext

/-- **A call that leaves alone where the sessions differ.** -/
theorem mirrors_keeps (h : s.Mirrors s' view target) (hc : c.keeps target = true) :
    (s.step c).Mirrors (s'.step c) view target := by
  have hne : ∀ id : TextureId, (id != target) = true → id ≠ target := fun id => bne_iff_ne.mp
  have hsurface : ∀ id, (id != target) = true → Surface.texture id ≠ .texture target :=
    fun id hid e => hne id hid (Surface.texture.inj e)
  cases c with
  | createTexture config data => exact mirrors_keepTexture h _
  | createTextureFromPng picture name => exact mirrors_keepTexture h _
  | createStage size format => exact mirrors_createStage h size format
  | createShader stage descriptor => exact ⟨rfl, h⟩
  | createSampler sampler => exact ⟨rfl, h⟩
  | mark m => exact ⟨rfl, h⟩
  | declined call => exact mirrors_fail h _ _ _
  | setParam param value => exact mirrors_setParam h param value
  | popProjection => exact mirrors_popProjection h
  | copyTexture dst src =>
    obtain ⟨hdst, hsrc⟩ := Bool.and_eq_true_iff.mp hc
    exact mirrors_copy h rfl (fun _ => rfl) (fun _ => rfl) rfl (hsurface dst hdst) rfl
      (hne src hsrc)
  | copyRegion dst src r =>
    obtain ⟨hdst, hsrc⟩ := Bool.and_eq_true_iff.mp hc
    exact mirrors_copy h rfl (fun _ => rfl) (fun _ => rfl) rfl (hsurface dst hdst) rfl
      (hne src hsrc)
  | stageTexture dst src =>
    exact mirrors_copy h rfl (fun _ => rfl) (fun _ => rfl) rfl nofun rfl (hne src hc)
  | setRenderTarget _ => cases hc
  | loadSwapchain _ => cases hc
  | clear _ _ _ _ => cases hc
  | draw _ _ _ => cases hc
  | present => cases hc
  | resize _ => cases hc
  | outputSize => cases hc
  | _ => exact mirrors_done (fun _ => rfl) (fun _ => rfl) h _ _ _

/-- **A blit that does not read the texture**: to the view in one, to the texture in the other. -/
theorem mirrors_draw (h : s.Mirrors s' view target)
    (hruns : s.context.Runs .defaultDraw .defaultDraw)
    (himage : s.context.params.image ≠ some target) (mode : DrawMode) (start count : UInt32) :
    (s.step (.draw mode start count)).Mirrors (s'.step (.draw mode start count)) view target := by
  obtain ⟨c, hc, hc'⟩ := h.contexts
  have htells : s'.context.tells (.draw mode start count) =
      s.context.tells (.draw mode start count) := by
    rw [hc, hc']
    rfl
  rw [hc] at hruns himage
  have hruns' : c.Runs .defaultDraw .defaultDraw := hruns
  have himage' : c.params.image ≠ some target := himage
  rcases DrawContext.task_draw_mirrors view hruns' himage' mode start count with
    ⟨e, htask, htask'⟩ | ⟨image, srcRect, dstRect, hne, htask, htask'⟩
  · rw [← hc] at htask
    rw [← hc'] at htask'
    refine mirrors_paints h rfl htells ?_ ?_
    · rw [htask, htask']
      rfl
    · rw [htask, htask']
      exact h.memories
  · rw [← hc] at htask
    rw [← hc'] at htask'
    have hview : (Engine.blit image srcRect dstRect).source ≠ some (.output view) := nofun
    have htarget : (Engine.blit image srcRect dstRect).source ≠ some (.texture target) := by
      intro e
      cases e
      exact hne rfl
    obtain ⟨hsaid, hnext⟩ := Task.set_mirrors_both h.memories hview htarget
    refine mirrors_paints h rfl htells ?_ ?_
    · rw [htask, htask']
      exact hsaid
    · rw [htask, htask']
      exact hnext

/-- The runs for which the sessions stay alike: every call keeps what they differ in, or is a draw
of the default program with an image that is not the texture. -/
def Follows (s : Session) (target : TextureId) : List Call → Prop
  | [] => True
  | c :: cs =>
    (c.keeps target = true ∨ (∃ mode start count, c = .draw mode start count) ∧
      s.context.Runs .defaultDraw .defaultDraw ∧ s.context.params.image ≠ some target) ∧
    (s.step c).session.Follows target cs

/-- **Over a run the two sessions say the same and stay alike.** -/
theorem mirrors_run (h : s.Mirrors s' view target) (hcs : s.Follows target cs) :
    (s'.run cs).1.map Outcome.said = (s.run cs).1.map Outcome.said ∧
      (s.after cs).Mirrors (s'.after cs) view target := by
  induction cs generalizing s s' with
  | nil => exact ⟨rfl, h⟩
  | cons c cs ih =>
    obtain ⟨hc, hrest⟩ := hcs
    have hstep : (s.step c).Mirrors (s'.step c) view target := by
      rcases hc with hkeeps | ⟨⟨mode, start, count, rfl⟩, hruns, himage⟩
      · exact mirrors_keeps h hkeeps
      · exact mirrors_draw h hruns himage mode start count
    obtain ⟨hsaid, hsession⟩ := hstep
    obtain ⟨hsaids, hafter⟩ := ih hsession hrest
    refine ⟨?_, hafter⟩
    exact congrArg₂ List.cons hsaid hsaids

end Session

/-- Textures of one level with the same pixels are alike but for usage and name. -/
theorem Texture.bare_eq_of_pixels {t u : Texture} (hsize : t.size = u.size)
    (hformat : t.format = u.format) (hlevels : t.levels = 1) (hlevels' : u.levels = 1)
    (h : ∀ p, t.contains p = true → t.pixel p = u.pixel p) : t.bare = u.bare := by
  have hconfig : t.bare.config = u.bare.config := by
    simp only [config, bare, hsize, hformat, hlevels, hlevels']
  have hlevel0 : t.bare.level0 = u.bare.level0 := level0_eq_of_pixels hsize hformat h
  refine eq_of_level0 hconfig hlevel0 fun i hi => ?_
  have hbytes : t.bytes.size = t.level0Size := by
    rw [t.size_bytes, hlevels]
    exact Nat.mul_one _
  have hbytes' : u.bytes.size = t.level0Size := by
    rw [u.size_bytes, hlevels', level0Size_of_format hsize hformat]
    exact Nat.mul_one _
  have hi' : t.level0Size ≤ i := hi
  rw [bytes_bare, bytes_bare, Array.getElem?_eq_none (by omega), Array.getElem?_eq_none (by omega)]

open Session

/-- **Drawing to a view agrees with drawing to a texture.** Take any session with a view and an RGBA
texture of one level that has the view's size and pixels. Set it up so that draws go to the view, or
so that they go to the texture, and make the same calls: draws of the default program while the
texture is not the bound image, and between them whatever leaves alone the texture, the views and
where draws go.

Then every call answers and tells the same in both, and afterwards the view's output has the size
and the bytes of the texture, and every other surface holds the same in both. As the runs are any,
this is so after every call. -/
theorem drawing_to_view_agrees (s : Session) (view : ViewId) (target : TextureId)
    (hview : s.memory.Has (.output view)) (houtput : (s.memory.view view).HasOutput)
    (htarget : s.memory.Has (.texture target))
    (hformat : (s.memory.texture target).format = .rgba)
    (hlevels : (s.memory.texture target).levels = 1)
    (hsize : (s.memory.texture target).size = (s.memory.view view).size)
    (hpixels : ∀ p, (s.memory.texture target).contains p = true →
      (s.memory.texture target).pixel p = (s.memory.view view).output.pixel p)
    (cs : List Call) (hcs : (s.toView view).Follows target cs) :
    ((s.toTexture target).run cs).1.map Outcome.said =
        ((s.toView view).run cs).1.map Outcome.said ∧
      (((s.toView view).after cs).memory.view view).size =
        (((s.toTexture target).after cs).memory.texture target).size ∧
      (((s.toView view).after cs).memory.view view).output.bytes =
        (((s.toTexture target).after cs).memory.texture target).bytes ∧
      ∀ f, f ≠ .output view → f ≠ .texture target →
        ((s.toTexture target).after cs).memory.load f =
          ((s.toView view).after cs).memory.load f := by
  have hformat' : (s.memory.view view).output.format = .rgba :=
    congrArg TextureConfig.format houtput
  have hlevels' : (s.memory.view view).output.levels = 1 := congrArg TextureConfig.levels houtput
  have hbare : (s.memory.texture target).bare = (s.memory.view view).output.bare :=
    Texture.bare_eq_of_pixels hsize (hformat.trans hformat'.symm) hlevels hlevels' hpixels
  have hmirrors : (s.toView view).Mirrors (s.toTexture target) view target :=
    ⟨⟨s.context, rfl, rfl⟩, .self hview htarget hbare.symm⟩
  obtain ⟨hsaid, hafter⟩ := mirrors_run hmirrors hcs
  obtain ⟨hsizes, _, _, hbytes⟩ := Texture.bare_eq_iff.mp hafter.memories.bare_eq
  exact ⟨hsaid, hsizes, hbytes, hafter.memories.load_eq⟩

/-- A texture like the output of a view of one pixel. -/
def onePixel : Texture := .ofBytes ⟨⟨1, 1⟩, .rgba, 1, .renderTarget, "target"⟩ #[0, 0, 0, 0] rfl

/-- A device that is to squeeze two pixels into one. -/
def squeezing : Session where
  device := {
    context := {
      bindings := {
        vertexShader := some ⟨.known .defaultDraw .vertex, .vertex, "default.effect", ""⟩
        fragmentShader := some ⟨.known .defaultDraw .fragment, .fragment, "default.effect", ""⟩
        vertexBuffer := some ⟨.quad 0 0 1 1 0 0 2 1, false⟩ }
      params := { image := some ⟨1⟩, colorVecs := Vector.replicate 3 Vec4.zero }
      transforms :=
        { projection := ortho 0 1 0 1 (-100) 100, saved := [], modelView := Mat4.identity
          viewport := ⟨0, 0, 1, 1⟩ } } }
  memory := { textures := #[onePixel, twoPixels], views := #[onePixelView] }

/-- It draws, and once more after the image was taken away. -/
def squeezingRun : List Call :=
  [.draw .triStrip 0 4, .setParam (.ofName "image") (.image none), .draw .triStrip 0 4]

/-- Whether it draws to the view or to the texture, it says the same and leaves the first of the two
pixels there. -/
theorem squeezing_agrees :
    (squeezing.toView ⟨0⟩).context.quad .triStrip 0 4 = .ok ⟨⟨0, 0, 2, 1⟩, ⟨0, 0, 1, 1⟩⟩ ∧
    (squeezing.toView ⟨0⟩).Follows ⟨0⟩ squeezingRun ∧
    ((squeezing.toTexture ⟨0⟩).run squeezingRun).1.map Outcome.said =
      ((squeezing.toView ⟨0⟩).run squeezingRun).1.map Outcome.said ∧
    (((squeezing.toView ⟨0⟩).after squeezingRun).memory.view ⟨0⟩).output.bytes =
      (((squeezing.toTexture ⟨0⟩).after squeezingRun).memory.texture ⟨0⟩).bytes ∧
    (((squeezing.toView ⟨0⟩).after squeezingRun).memory.view ⟨0⟩).output.bytes =
      #[0, 0, 255, 255] := by
  have hruns : (squeezing.toView ⟨0⟩).context.Runs .defaultDraw .defaultDraw :=
    ⟨_, _, rfl, rfl, rfl, rfl⟩
  have hfollows : (squeezing.toView ⟨0⟩).Follows ⟨0⟩ squeezingRun := by
    refine ⟨.inr ⟨⟨_, _, _, rfl⟩, hruns, by decide⟩, ?_⟩
    rw [session_paints _ rfl]
    exact ⟨.inl rfl, .inr ⟨⟨_, _, _, rfl⟩, hruns, nofun⟩, trivial⟩
  obtain ⟨hsaid, _, hbytes, _⟩ := drawing_to_view_agrees squeezing ⟨0⟩ ⟨0⟩ (by decide) rfl
    (by decide) rfl rfl rfl (fun _ _ => rfl) squeezingRun hfollows
  exact ⟨by decide +kernel, hfollows, hsaid, hbytes, by decide +kernel⟩

end BlitDevice
