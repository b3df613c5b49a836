import BlitDevice.Proofs.Dispatch
import BlitDevice.Proofs.Repaint

/-!
# Which surface a call writes

* `Memory.Has`, `Memory.load_store_self`, `Memory.load_store_of_ne` — surfaces are apart: what is
  stored in one is there afterwards, and every other holds what it held.
* `Session.target` — the one surface a call may write.
* `Session.Effect` — everything a call can do to memory, and the surface it hands out;
  `Session.effect_step` says that this is all.
* `Session.load_step`, `Session.repainted_step`, `Session.load_handedOut`,
  `Session.load_image_draw`, `Session.output_step` — what follows for one surface from one call.
-/

set_option autoImplicit false

namespace BlitDevice

/-- The output of a view, which can be replaced as a whole. -/
def Surface.isOutput : Surface → Bool
  | .output _ => true
  | _ => false

namespace Memory

variable {m m' : Memory} {f g : Surface} {t : Texture} {log : Log}

/-- The surface was given out. -/
def Has (m : Memory) : Surface → Prop
  | .texture id => id.index < m.textures.size
  | .stage id => id.index < m.stages.size
  | .output id => id.index < m.views.size

instance (m : Memory) : (f : Surface) → Decidable (m.Has f)
  | .texture id => inferInstanceAs (Decidable (id.index < m.textures.size))
  | .stage id => inferInstanceAs (Decidable (id.index < m.stages.size))
  | .output id => inferInstanceAs (Decidable (id.index < m.views.size))

theorem has_store : (m.store f t).Has g ↔ m.Has g := by
  cases f <;> cases g <;>
    simp only [store, setTexture, setStage, setView, Has, Array.size_setIfInBounds]

/-- What is stored in a surface is there. -/
theorem load_store_self (h : m.Has f) : (m.store f t).load f = t := by
  cases f with
  | texture id => exact (texture_setTexture m id id t).trans (if_pos ⟨rfl, h⟩)
  | stage id =>
    exact congrArg StageSurface.texture ((stage_setStage m id id ⟨t⟩).trans (if_pos ⟨rfl, h⟩))
  | output id =>
    exact congrArg View.output ((view_setView m id id _).trans (if_pos ⟨rfl, h⟩))

/-- Every other surface holds what it held. -/
theorem load_store_of_ne (h : f ≠ g) : (m.store f t).load g = m.load g := by
  cases f with
  | texture id =>
    cases g with
    | texture other =>
      have hne : id ≠ other := fun e => h (congrArg _ e)
      simp only [store, load, texture_setTexture]
      rw [if_neg fun e => hne e.1]
    | stage other => rfl
    | output other => rfl
  | stage id =>
    cases g with
    | texture other => rfl
    | stage other =>
      have hne : id ≠ other := fun e => h (congrArg _ e)
      simp only [store, load, stage_setStage]
      rw [if_neg fun e => hne e.1]
    | output other => rfl
  | output id =>
    cases g with
    | texture other => rfl
    | stage other => rfl
    | output other =>
      have hne : id ≠ other := fun e => h (congrArg _ e)
      simp only [store, load, view_setView]
      rw [if_neg fun e => hne e.1]

/-- Counting a frame changes no pixel. -/
theorem load_setView_presented (m : Memory) (id : ViewId) (presented : UInt64) :
    (m.setView id { m.view id with presented }).load g = m.load g := by
  cases g with
  | texture other => rfl
  | stage other => rfl
  | output other =>
    simp only [load, view_setView]
    split
    · rename_i h
      rw [h.1]
    · rfl

theorem has_setView {id : ViewId} {v : View} : (m.setView id v).Has g ↔ m.Has g := by
  cases g <;> simp only [setView, Has, Array.size_setIfInBounds]

/-! Adding a surface. -/

theorem has_addTexture : (m.addTexture t).1.Has g ↔ m.Has g ∨ g = .texture (m.addTexture t).2 := by
  cases g with
  | texture other =>
    obtain ⟨i⟩ := other
    simp only [addTexture, Has, Array.size_push, Surface.texture.injEq, TextureId.mk.injEq]
    omega
  | stage other => simp [addTexture, Has]
  | output other => simp [addTexture, Has]

theorem has_addStage {a : StageSurface} :
    (m.addStage a).1.Has g ↔ m.Has g ∨ g = .stage (m.addStage a).2 := by
  cases g with
  | texture other => simp [addStage, Has]
  | stage other =>
    obtain ⟨i⟩ := other
    simp only [addStage, Has, Array.size_push, Surface.stage.injEq, StageId.mk.injEq]
    omega
  | output other => simp [addStage, Has]

/-- Reading a surface after a texture was taken in. -/
theorem load_addTexture_eq (m : Memory) (t : Texture) (g : Surface) :
    (m.addTexture t).1.load g = if g = .texture (m.addTexture t).2 then t else m.load g := by
  cases g with
  | texture other =>
    obtain ⟨i⟩ := other
    simp only [addTexture, load, texture, Array.getElem?_push, Surface.texture.injEq,
      TextureId.mk.injEq]
    split <;> rfl
  | stage other => rfl
  | output other => rfl

/-- Reading a surface after a stage surface was taken in. -/
theorem load_addStage_eq (m : Memory) (a : StageSurface) (g : Surface) :
    (m.addStage a).1.load g = if g = .stage (m.addStage a).2 then a.texture else m.load g := by
  cases g with
  | texture other => rfl
  | stage other =>
    obtain ⟨i⟩ := other
    simp only [addStage, load, stage, Array.getElem?_push, Surface.stage.injEq, StageId.mk.injEq]
    split <;> rfl
  | output other => rfl

theorem load_addTexture (h : m.Has g) : (m.addTexture t).1.load g = m.load g := by
  refine (m.load_addTexture_eq t g).trans (if_neg ?_)
  rintro rfl
  exact Nat.lt_irrefl _ h

theorem load_addStage {a : StageSurface} (h : m.Has g) :
    (m.addStage a).1.load g = m.load g := by
  refine (m.load_addStage_eq a g).trans (if_neg ?_)
  rintro rfl
  exact Nat.lt_irrefl _ h

theorem load_addTexture_self : (m.addTexture t).1.load (.texture (m.addTexture t).2) = t :=
  (m.load_addTexture_eq t _).trans (if_pos rfl)

theorem load_addStage_self {a : StageSurface} :
    (m.addStage a).1.load (.stage (m.addStage a).2) = a.texture :=
  (m.load_addStage_eq a _).trans (if_pos rfl)

/-! ## What comes to a memory writes one surface -/

/-- If it comes to a memory, then to one where one surface has other pixels. -/
def Repaints (m : Memory) (f : Surface) (r : Except Error (Memory × Log)) : Prop :=
  ∀ m' log, r = .ok (m', log) → ∃ t, (m.load f).Repainted t ∧ m' = m.store f t

theorem repaints_error (e : Error) : m.Repaints f (.error e) := by
  intro m' log h
  cases h

theorem repaints_storing {r : Except Error (Texture × Log)}
    (h : ∀ t log, r = .ok (t, log) → (m.load f).Repainted t) : m.Repaints f (m.storing f r) := by
  intro m' log hr
  cases r with
  | error e => cases hr
  | ok a =>
    cases hr
    exact ⟨a.1, h a.1 a.2 rfl, rfl⟩

/-- A blit after a check. -/
theorem repaints_checked_blit {x : Except Error Unit} {src : Texture} {srcRect dstRect : Rect} :
    m.Repaints f (m.storing f (do x; blit src (m.load f) srcRect dstRect)) := by
  refine repaints_storing fun t log h => ?_
  obtain ⟨_, _, hblit⟩ := bind_eq_ok.mp h
  exact repainted_blit hblit

theorem repaints_copyTexture (m : Memory) (dst src : TextureId) :
    m.Repaints (.texture dst) (m.copyTexture dst src) := by
  by_cases h : dst = src
  · rw [copyTexture, if_pos h]
    exact repaints_error _
  · rw [copyTexture_eq m h]
    exact repaints_checked_blit

theorem repaints_copyRegion (m : Memory) (dst src : TextureId) (r : Region) :
    m.Repaints (.texture dst) (m.copyRegion dst src r) := by
  by_cases h : dst = src
  · rw [copyRegion, if_pos h]
    exact repaints_error _
  · rw [copyRegion_eq m h]
    exact repaints_storing fun t log => repainted_blit

theorem repaints_stageTexture (m : Memory) (dst : StageId) (src : TextureId) :
    m.Repaints (.stage dst) (m.stageTexture dst src) := by
  rw [stageTexture_eq]
  exact repaints_checked_blit

theorem repaints_clear (m : Memory) (dst : TextureId) (color : Vec4 Float32) :
    m.Repaints (.texture dst) (m.clear dst color) := by
  rw [Workspace.clear_eq]
  refine repaints_storing fun t log h => ?_
  cases hpx : Workspace.clearPixel (m.texture dst).format color with
  | error e => rw [hpx] at h; cases h
  | ok px =>
    rw [hpx] at h
    cases h
    exact Texture.repainted_fill _ px

end Memory

/-! ## What a draw writes -/

namespace DrawContext

/-- The surface draws go to. -/
def target (c : DrawContext) : Option Surface :=
  match c.bindings.renderTarget with
  | some target => some (.texture target)
  | none => c.swapchain.map .output

/-- **A draw that answers wrote where draws go**, and that is not the bound image. -/
theorem result_eq_ok {c : DrawContext} {mode : DrawMode} {start count : UInt32} {d : Decision}
    {m m' : Memory} {log : Log} (hrow : c.Decides mode start count d)
    (h : d.result m = .ok (m', log)) :
    ∃ f t, c.target = some f ∧ (∀ image, c.params.image = some image → f ≠ .texture image) ∧
      (m.load f).Repainted t ∧ m' = m.store f t := by
  cases hrow with
  | @blit quad image target _ _ himage htarget hne =>
    rw [Decision.result, Memory.blitToTexture_eq] at h
    obtain ⟨t, ht, rfl⟩ := Memory.repaints_storing (fun t log => repainted_blit) _ _ h
    refine ⟨.texture target, t, by rw [DrawContext.target, htarget], ?_, ht, rfl⟩
    intro other hother heq
    rw [himage] at hother
    cases hother
    exact hne (Surface.texture.inj heq)
  | @present quad image view _ _ _ htarget hview =>
    rw [Decision.result, Memory.blitToView_eq] at h
    obtain ⟨t, ht, rfl⟩ := Memory.repaints_storing (fun t log => repainted_blit) _ _ h
    refine ⟨.output view, t, by rw [DrawContext.target, htarget, hview]; rfl, ?_, ht, rfl⟩
    intro other _ heq
    cases heq
  | @luma image target _ htarget himage hne =>
    obtain ⟨plane, hplane, hm⟩ := bind_eq_ok.mp h
    cases hm
    refine ⟨.texture target, plane, by rw [DrawContext.target, htarget], ?_,
      repainted_convertToLuma hplane, rfl⟩
    intro other hother heq
    rw [himage] at hother
    cases hother
    exact hne (Surface.texture.inj heq)
  | _ => cases h

end DrawContext

/-! ## What a call does to memory -/

/-- What a call puts into the surface it creates, if it creates one. -/
def Call.created? : Call → Option Texture
  | .createTexture config data => (Texture.create config data).toOption
  | .createTextureFromPng picture name => (Texture.ofReading picture name).toOption
  | .createStage size format => (StageSurface.create size format).toOption.map StageSurface.texture
  | _ => none

/-- The surface a call hands out. -/
def Outcome.handedOut? (o : Outcome Answer) : Option Surface :=
  match o.answer with
  | .ok (.texture id) => some (.texture id)
  | .ok (.stage id) => some (.stage id)
  | _ => none

namespace Session

/-- The one surface a call may write pixels of: the bound render target for a clear; that, or
without one the output of the loaded view, for a draw; the destination for a copy; the loaded
view's output when it is resized. -/
def target (s : Session) : Call → Option Surface
  | .clear .. => s.context.bindings.renderTarget.map .texture
  | .draw .. => s.context.target
  | .copyTexture dst _ => some (.texture dst)
  | .copyRegion dst _ _ => some (.texture dst)
  | .stageTexture dst _ => some (.stage dst)
  | .resize _ => s.context.swapchain.map .output
  | _ => none

/-- What a call can do to memory, and what surface it hands out. -/
inductive Effect (s : Session) (c : Call) : Memory → Option Surface → Prop where
  | nothing : Effect s c s.memory none
  | repaint {f : Surface} {t : Texture} : s.target c = some f → (∀ size, c ≠ .resize size) →
      (s.memory.load f).Repainted t → Effect s c (s.memory.store f t) none
  | freshOutput {size : Size} {id : ViewId} {t : Texture} : c = .resize size →
      s.context.swapchain = some id → Texture.create (View.outputConfig size) none = .ok t →
      Effect s c (s.memory.store (.output id) t) none
  | countFrame {id : ViewId} {presented : UInt64} : c = .present →
      Effect s c (s.memory.setView id { s.memory.view id with presented }) none
  | newTexture {t : Texture} : c.created? = some t → Effect s c (s.memory.addTexture t).1
      (some (.texture (s.memory.addTexture t).2))
  | newStage {a : StageSurface} : c.created? = some a.texture →
      Effect s c (s.memory.addStage a).1 (some (.stage (s.memory.addStage a).2))

variable {s : Session} {c : Call} {f : Surface}

/-- The effect of what a call comes to. -/
def HasEffect (s : Session) (c : Call) (o : Outcome Answer) : Prop :=
  s.Effect c o.session.memory o.handedOut?

theorem effect_commit {told : Log} {r : Except Error (Memory × Log)} (hf : s.target c = some f)
    (hc : ∀ size, c ≠ .resize size) (hr : s.memory.Repaints f r) :
    s.HasEffect c (s.commit told r).unit := by
  cases r with
  | error e => exact .nothing
  | ok a =>
    obtain ⟨m, log⟩ := a
    obtain ⟨t, ht, rfl⟩ := hr m log rfl
    exact .repaint hf hc ht

theorem effect_keepTexture {r : Except Error Texture} (h : c.created? = r.toOption) :
    s.HasEffect c ((s.keepTexture r).map .texture) := by
  cases r with
  | error e => exact .nothing
  | ok t => exact .newTexture h

theorem effect_createStage (s : Session) (size : Size) (format : PixelFormat) :
    s.HasEffect (.createStage size format) ((s.createStage size format).map .stage) := by
  unfold createStage
  cases h : StageSurface.create size format with
  | error e => exact .nothing
  | ok a => exact .newStage (by rw [Call.created?, h]; rfl)

theorem effect_clear (s : Session) (flags : ClearFlags) (color : Vec4 Float32) (depth : Float32)
    (stencil : UInt8) :
    s.HasEffect (.clear flags color depth stencil) (s.clear flags color).unit := by
  unfold clear
  split
  · rename_i target htarget
    split
    · have hf : s.target (.clear flags color depth stencil) = some (.texture target) := by
        rw [Session.target, htarget]
        rfl
      exact effect_commit hf (by simp) (s.memory.repaints_clear target color)
    · exact .nothing
  · exact .nothing

theorem effect_draw (s : Session) (mode : DrawMode) (start count : UInt32) :
    s.HasEffect (.draw mode start count) (s.draw mode start count).unit := by
  rw [draw_eq]
  cases h : (s.context.decision mode start count).result s.memory with
  | error e => exact .nothing
  | ok a =>
    obtain ⟨m, log⟩ := a
    obtain ⟨f, t, hf, _, ht, rfl⟩ := DrawContext.result_eq_ok (s.context.decides_decision _ _ _) h
    exact .repaint hf (by simp) ht

theorem effect_present (s : Session) : s.HasEffect .present s.present.unit := by
  unfold present
  split
  · exact .nothing
  · exact .countFrame rfl

theorem effect_resize (s : Session) (size : Size) :
    s.HasEffect (.resize size) (s.resize size).unit := by
  unfold resize
  split
  · exact .nothing
  · rename_i id hid
    unfold View.resize
    cases h : Texture.create (View.outputConfig size) none with
    | error e => exact .nothing
    | ok t => exact .freshOutput rfl hid h

/-- **That is all a call can do to memory.** -/
theorem effect_step (s : Session) (c : Call) : s.HasEffect c (s.step c) := by
  cases c with
  | createTexture config data => exact effect_keepTexture rfl
  | createTextureFromPng picture name => exact effect_keepTexture rfl
  | createStage size format => exact effect_createStage s size format
  | clear flags color depth stencil => exact effect_clear s flags color depth stencil
  | copyTexture dst src => exact effect_commit rfl (by simp) (s.memory.repaints_copyTexture dst src)
  | copyRegion dst src region =>
    exact effect_commit rfl (by simp) (s.memory.repaints_copyRegion dst src region)
  | stageTexture dst src => exact effect_commit rfl (by simp) (s.memory.repaints_stageTexture dst src)
  | draw mode start count => exact effect_draw s mode start count
  | present => exact effect_present s
  | resize size => exact effect_resize s size
  | popProjection =>
    change s.HasEffect _ s.popProjection.unit
    unfold popProjection
    split
    · exact .nothing
    · exact .nothing
  | outputSize =>
    change s.HasEffect _ (s.outputSize.map .size)
    unfold outputSize
    split
    · exact .nothing
    · exact .nothing
  | _ => exact .nothing

/-! ## What a call does to one surface -/

/-- Surfaces stay, and the only new one is the one handed out. -/
theorem has_step : (s.step c).session.memory.Has f ↔
    s.memory.Has f ∨ (s.step c).handedOut? = some f := by
  have h := effect_step s c
  unfold HasEffect at h
  generalize (s.step c).session.memory = m at h
  generalize (s.step c).handedOut? = handed at h
  cases h with
  | nothing => simp
  | repaint _ _ _ => simp [Memory.has_store]
  | freshOutput _ _ _ => simp [Memory.has_store]
  | countFrame _ => simp [Memory.has_setView]
  | newTexture _ => rw [Memory.has_addTexture, Option.some.injEq, eq_comm (a := f)]
  | newStage _ => rw [Memory.has_addStage, Option.some.injEq, eq_comm (a := f)]

/-- **A call changes no surface but its target.** -/
theorem load_step (hf : s.memory.Has f) (hne : s.target c ≠ some f) :
    (s.step c).session.memory.load f = s.memory.load f := by
  have h := effect_step s c
  unfold HasEffect at h
  generalize (s.step c).session.memory = m at h
  generalize (s.step c).handedOut? = handed at h
  cases h with
  | nothing => rfl
  | repaint hg _ _ => exact Memory.load_store_of_ne fun e => hne (e ▸ hg)
  | freshOutput hc hid _ =>
    subst hc
    refine Memory.load_store_of_ne fun e => hne ?_
    rw [target, hid, ← e]
    rfl
  | countFrame _ => exact Memory.load_setView_presented _ _ _
  | newTexture _ => exact Memory.load_addTexture hf
  | newStage _ => exact Memory.load_addStage hf

/-- **A call changes level 0 at most**, unless it gives a view a fresh output. -/
theorem repainted_step (hf : s.memory.Has f)
    (hr : f.isOutput = false ∨ ∀ size, c ≠ .resize size) :
    (s.memory.load f).Repainted ((s.step c).session.memory.load f) := by
  by_cases hne : s.target c = some f
  · have h := effect_step s c
    unfold HasEffect at h
    generalize (s.step c).session.memory = m at h
    generalize (s.step c).handedOut? = handed at h
    cases h with
    | nothing => exact .refl _
    | repaint hg _ ht =>
      rw [hne] at hg
      cases hg
      rwa [Memory.load_store_self hf]
    | freshOutput hc hid _ =>
      subst hc
      rw [target, hid] at hne
      cases hne
      rcases hr with hr | hr
      · cases hr
      · exact absurd rfl (hr _)
    | countFrame _ =>
      rw [Memory.load_setView_presented]
      exact .refl _
    | newTexture _ =>
      rw [Memory.load_addTexture hf]
      exact .refl _
    | newStage _ =>
      rw [Memory.load_addStage hf]
      exact .refl _
  · rw [load_step hf hne]
    exact .refl _

/-- A surface that is handed out is new, and holds what it was created with. -/
theorem load_handedOut (h : (s.step c).handedOut? = some f) :
    ¬ s.memory.Has f ∧ c.created? = some ((s.step c).session.memory.load f) := by
  have he := effect_step s c
  unfold HasEffect at he
  rw [h] at he
  generalize (s.step c).session.memory = m at he
  generalize hfh : some f = handed at he
  cases he with
  | newTexture hc =>
    cases hfh
    rw [Memory.load_addTexture_self]
    exact ⟨Nat.lt_irrefl _, hc⟩
  | newStage hc =>
    cases hfh
    rw [Memory.load_addStage_self]
    exact ⟨Nat.lt_irrefl _, hc⟩
  | _ => cases hfh

/-- The bound image is no target, so no draw changes it. -/
theorem load_image_draw {mode : DrawMode} {start count : UInt32} {image : TextureId}
    (hi : s.context.params.image = some image) :
    (s.step (.draw mode start count)).session.memory.load (.texture image) =
      s.memory.load (.texture image) := by
  rw [session_draw]
  cases h : (s.context.decision mode start count).result s.memory with
  | error e => rfl
  | ok a =>
    obtain ⟨m, log⟩ := a
    obtain ⟨f, t, _, himage, _, rfl⟩ :=
      DrawContext.result_eq_ok (s.context.decides_decision _ _ _) h
    exact Memory.load_store_of_ne (himage image hi)

end Session

/-! ## Views -/

/-- The texture that is created has the configuration that was asked for, with a level at least. -/
theorem Texture.config_create {config : TextureConfig} {data : Option Bytes} {t : Texture}
    (h : Texture.create config data = .ok t) :
    t.config = { config with levels := atLeastOne config.levels } := by
  unfold Texture.create at h
  split at h
  · cases h
  · split at h
    · cases h; rfl
    · split at h
      · cases h; rfl
      · cases h

/-- Without initial bytes it is all zero. -/
theorem Texture.bytes_create_none {config : TextureConfig} {t : Texture}
    (h : Texture.create config none = .ok t) : ∀ b ∈ t.bytes, b = 0 := by
  unfold Texture.create at h
  split at h
  · cases h
  · cases h
    intro b hb
    exact (Array.mem_replicate.mp hb).2

namespace View

/-- The output is one that outputs are created as. -/
def HasOutput (v : View) : Prop := v.output.config = outputConfig v.size

instance (v : View) : Decidable v.HasOutput := inferInstanceAs (Decidable (_ = _))

theorem config_output {size : Size} {t : Texture}
    (h : Texture.create (outputConfig size) none = .ok t) : t.config = outputConfig size :=
  Texture.config_create h

/-- A created view has such an output. -/
theorem hasOutput_create {size : Size} {v : View} (h : create size = .ok v) : v.HasOutput := by
  unfold create at h
  split at h
  · rename_i t ht
    cases h
    have hc := config_output ht
    have hs : t.size = size := congrArg TextureConfig.size hc
    rw [HasOutput, View.size, hs]
    exact hc
  · cases h

end View

namespace Session

variable {s : Session} {c : Call} {id : ViewId}

/-- The size a call gives the output of a view, if it resizes it. -/
def resized? (s : Session) (c : Call) (id : ViewId) : Option Size :=
  match c with
  | .resize size =>
    if s.context.swapchain = some id ∧ (s.step c).answer.isOk then some size else none
  | _ => none

/-- Resizing gives the loaded view an output that is all zero. -/
theorem resize_eq_ok {size : Size} {a : Answer} (hid : s.context.swapchain = some id)
    (h : (s.step (.resize size)).answer = .ok a) :
    ∃ t, Texture.create (View.outputConfig size) none = .ok t ∧
      (s.step (.resize size)).session.memory = s.memory.store (.output id) t := by
  change (s.resize size).unit.answer = .ok a at h
  change ∃ t, _ ∧ (s.resize size).unit.session.memory = _
  unfold resize View.resize at h ⊢
  rw [hid] at h ⊢
  cases ht : Texture.create (View.outputConfig size) none with
  | error e => rw [ht] at h; cases h
  | ok t => exact ⟨t, rfl, rfl⟩

/-- Where resizing answers, the output has the size that was asked for and is all zero. -/
theorem output_resize {size : Size} {a : Answer} (hid : s.context.swapchain = some id)
    (hf : s.memory.Has (.output id)) (h : (s.step (.resize size)).answer = .ok a) :
    ((s.step (.resize size)).session.memory.view id).output.config = View.outputConfig size ∧
      ∀ b ∈ ((s.step (.resize size)).session.memory.view id).output.bytes, b = 0 := by
  obtain ⟨t, ht, hm⟩ := resize_eq_ok hid h
  have hload : ((s.step (.resize size)).session.memory.view id).output = t := by
    rw [hm]
    exact Memory.load_store_self hf
  rw [hload]
  exact ⟨View.config_output ht, Texture.bytes_create_none ht⟩

/-- **The output of a view has the size it was given last.** -/
theorem output_step (hf : s.memory.Has (.output id)) :
    ((s.step c).session.memory.view id).output.config =
      match s.resized? c id with
      | some size => View.outputConfig size
      | none => (s.memory.view id).output.config := by
  by_cases hr : ∀ size, c ≠ .resize size
  · have hnone : s.resized? c id = none := by
      unfold resized?
      split
      · exact absurd rfl (hr _)
      · rfl
    rw [hnone]
    exact (repainted_step hf (.inr hr)).config_eq
  · simp only [ne_eq, not_forall, not_not] at hr
    obtain ⟨size, rfl⟩ := hr
    unfold resized?
    dsimp only
    by_cases hid : s.context.swapchain = some id
    · cases ha : (s.step (.resize size)).answer with
      | ok a =>
        rw [if_pos ⟨hid, rfl⟩]
        exact (output_resize hid hf ha).1
      | error e =>
        rw [if_neg (by rintro ⟨_, h⟩; cases h), ((s.atomic_step _).unchanged e ha).1]
    · have hne : s.target (.resize size) ≠ some (.output id) := by
        intro h
        obtain ⟨other, ho, he⟩ := Option.map_eq_some_iff.mp h
        cases he
        exact hid ho
      rw [if_neg fun h => hid h.1]
      exact congrArg Texture.config (load_step hf hne)

end Session

end BlitDevice
