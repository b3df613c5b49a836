import BlitDevice.Proofs.Procedures

/-!
# Calls that fail change nothing

A call is carried out in place: it takes hold of surfaces, looks, checks and writes, and nothing
puts back what it wrote before it failed. Still:

* `Outcome.Atomic` — a call that fails leaves everything as it was and tells its error, once and
  last; a call that answers tells no error.
* `calm_blit`, `DrawContext.calm_emulate` — engines tell no error; `Session.atomic_commit` — where a
  call commits is where one is told.
* `Session.atomic_step` — every call is atomic, as it is described.
* `failed_calls_change_nothing` — and as it is carried out, from any state.
-/

set_option autoImplicit false

namespace BlitDevice

/-! ## Quiet logs -/

/-- No record is an error. -/
def Quiet (log : Log) : Prop := ∀ r ∈ log, r.level ≠ .error

theorem quiet_nil : Quiet [] := by
  intro r hr
  cases hr

theorem quiet_singleton {r : Record} (h : r.level ≠ .error) : Quiet [r] := by
  intro r' hr'
  rw [List.mem_singleton.mp hr']
  exact h

theorem quiet_append {log more : Log} (h : Quiet log) (h' : Quiet more) : Quiet (log ++ more) := by
  intro r hr
  rcases List.mem_append.mp hr with hr | hr
  · exact h r hr
  · exact h' r hr

/-- What comes to a value tells no error. -/
def Calm {α : Type} (r : Except Error (α × Log)) : Prop := ∀ a log, r = .ok (a, log) → Quiet log

theorem calm_error {α : Type} (e : Error) : Calm (.error e : Except Error (α × Log)) := by
  intro a log h
  cases h

theorem calm_ok {α : Type} {a : α} {log : Log} (h : Quiet log) : Calm (.ok (a, log)) := by
  intro a' log' h'
  cases h'
  exact h

theorem calm_bind {α β : Type} (x : Except Error α) {f : α → Except Error (β × Log)}
    (h : ∀ a, Calm (f a)) : Calm (x >>= f) := by
  cases x with
  | ok a => exact h a
  | error e => exact calm_error e

theorem calm_ite {α : Type} {p : Prop} [Decidable p] {x y : Except Error (α × Log)} (hx : Calm x)
    (hy : Calm y) : Calm (if p then x else y) := by
  split
  · exact hx
  · exact hy

/-- A blit tells that it blits, or nothing. -/
theorem calm_blitByPixel (src dst : Texture) (srcRect dstRect : Rect) :
    Calm (blitByPixel src dst srcRect dstRect) := by
  intro a log h
  cases hop : PixelOp.between? src.format dst.format with
  | none => simp [blitByPixel, hop] at h
  | some op =>
    simp only [blitByPixel, hop] at h
    have hblitting : (Record.blitting srcRect dstRect).level ≠ .error := by simp [Record.level]
    exact calm_ite (calm_ok quiet_nil) (calm_ok (quiet_singleton hblitting)) a log h

theorem calm_blit (src dst : Texture) (srcRect dstRect : Rect) :
    Calm (blit src dst srcRect dstRect) := by
  unfold blit
  split
  · exact calm_ok quiet_nil
  · exact calm_blitByPixel src dst srcRect dstRect

theorem calm_storing (m : Memory) (s : Surface) {r : Except Error (Texture × Log)} (h : Calm r) :
    Calm (m.storing s r) := by
  intro m' log hr
  cases r with
  | ok a =>
    cases hr
    exact h a.1 a.2 rfl
  | error e => cases hr

namespace Memory

theorem calm_copyTexture (m : Memory) (dst src : TextureId) : Calm (m.copyTexture dst src) := by
  by_cases h : dst = src
  · rw [copyTexture, if_pos h]
    exact calm_error _
  · rw [copyTexture_eq m h]
    exact calm_storing _ _ (calm_bind _ fun _ => calm_blit _ _ _ _)

theorem calm_copyRegion (m : Memory) (dst src : TextureId) (r : Region) :
    Calm (m.copyRegion dst src r) := by
  by_cases h : dst = src
  · rw [copyRegion, if_pos h]
    exact calm_error _
  · rw [copyRegion_eq m h]
    exact calm_storing _ _ (calm_blit _ _ _ _)

theorem calm_stageTexture (m : Memory) (dst : StageId) (src : TextureId) :
    Calm (m.stageTexture dst src) := by
  rw [stageTexture_eq]
  exact calm_storing _ _ (calm_bind _ fun _ => calm_blit _ _ _ _)

theorem calm_clear (m : Memory) (dst : TextureId) (color : Vec4 Float32) :
    Calm (m.clear dst color) := by
  unfold clear
  dsimp only
  split
  · exact calm_ok quiet_nil
  · exact calm_error _

end Memory

/-- The emulations tell that they blit, or nothing. -/
theorem DrawContext.calm_emulate (c : DrawContext) (m : Memory) (mode : DrawMode)
    (start count : UInt32) (route : Route) : Calm (c.emulate m mode start count route) := by
  cases route with
  | texturedBlit =>
    refine calm_bind _ fun quad => calm_bind _ fun image => ?_
    split
    · refine calm_ite (calm_error _) ?_
      rw [Memory.blitToTexture_eq]
      exact calm_storing _ _ (calm_blit _ _ _ _)
    · split
      · rw [Memory.blitToView_eq]
        exact calm_storing _ _ (calm_blit _ _ _ _)
      · exact calm_error _
  | luma =>
    refine calm_bind _ fun target => calm_bind _ fun image => calm_ite (calm_error _) ?_
    exact calm_bind _ fun plane => calm_ok quiet_nil
  | chroma => exact calm_bind _ fun target => calm_error _

/-! ## Atomic outcomes -/

/-- A call that fails leaves everything as it was and tells its error, once and last; a call that
answers tells no error. -/
structure Outcome.Atomic {α : Type} (s : Session) (o : Outcome α) : Prop where
  unchanged : ∀ e, o.answer = .error e →
    o.session = s ∧ ∃ before : Log, o.log = before ++ [.failed e] ∧ Quiet before
  quiet : ∀ a, o.answer = .ok a → Quiet o.log

namespace Session

variable {α β : Type} {s s' : Session} {log : Log}

theorem atomic_done {a : α} (h : Quiet log) : (s'.done a log).Atomic s :=
  ⟨fun _ he => (nomatch he), fun _ _ => h⟩

theorem atomic_fail {e : Error} (h : Quiet log) : (s.fail e log : Outcome α).Atomic s := by
  constructor
  · intro e' he
    cases he
    exact ⟨rfl, log, rfl, h⟩
  · intro a ha
    cases ha

theorem atomic_commit {r : Except Error (Memory × Log)} (h : Quiet log) (hr : Calm r) :
    (s.commit log r).Atomic s := by
  cases r with
  | ok a => exact atomic_done (quiet_append h (hr a.1 a.2 rfl))
  | error e => exact atomic_fail h

theorem atomic_map {f : α → β} {o : Outcome α} (h : o.Atomic s) : (o.map f).Atomic s := by
  obtain ⟨answer, log, session⟩ := o
  cases answer with
  | ok a => exact ⟨fun _ he => (nomatch he), fun _ _ => h.quiet a rfl⟩
  | error e =>
    constructor
    · intro e' he
      cases he
      exact h.unchanged e rfl
    · intro a ha
      cases ha

theorem atomic_keepTexture (r : Except Error Texture) : (s.keepTexture r).Atomic s := by
  cases r with
  | ok t => exact atomic_done quiet_nil
  | error e => exact atomic_fail quiet_nil

theorem atomic_createStage (size : Size) (format : PixelFormat) :
    (s.createStage size format).Atomic s := by
  unfold createStage
  split
  · exact atomic_done quiet_nil
  · exact atomic_fail quiet_nil

/-- A shader that is not known is worth a warning. -/
theorem atomic_createShader (stage : ShaderStage) (descriptor : String) :
    (s.createShader stage descriptor).Atomic s := by
  refine atomic_done ?_
  unfold Shader.log
  split
  · exact quiet_singleton nofun
  · exact quiet_nil

theorem atomic_createSampler (sampler : Sampler) : (s.createSampler sampler).Atomic s := by
  refine atomic_done ?_
  unfold Sampler.log
  split
  · exact quiet_nil
  · exact quiet_singleton nofun

/-- A value that does not fit its parameter is worth a warning. -/
theorem atomic_setParam (param : ShaderParam) (value : ParamValue TextureId) :
    (s.setParam param value).Atomic s := by
  refine atomic_done ?_
  change Quiet (s.context.params.set param value).2
  unfold ParamSlots.set
  split
  · exact quiet_singleton nofun
  · exact quiet_nil
  · exact quiet_nil
  · exact quiet_singleton nofun
  · exact quiet_singleton nofun

theorem atomic_popProjection : s.popProjection.Atomic s := by
  unfold popProjection
  split
  · exact atomic_fail quiet_nil
  · exact atomic_done quiet_nil

theorem atomic_clear (flags : ClearFlags) (color : Vec4 Float32) :
    (s.clear flags color).Atomic s := by
  unfold clear
  split
  · split
    · exact atomic_commit quiet_nil (Memory.calm_clear _ _ _)
    · exact atomic_done quiet_nil
  · exact atomic_done quiet_nil

theorem atomic_draw (mode : DrawMode) (start count : UInt32) :
    (s.draw mode start count).Atomic s := by
  unfold draw
  split
  · exact atomic_fail quiet_nil
  · exact atomic_commit (quiet_singleton nofun) (DrawContext.calm_emulate _ _ _ _ _ _)

theorem atomic_present : s.present.Atomic s := by
  unfold present
  split
  · exact atomic_fail quiet_nil
  · exact atomic_done (quiet_singleton nofun)

theorem atomic_resize (size : Size) : (s.resize size).Atomic s := by
  unfold resize
  split
  · exact atomic_fail quiet_nil
  · split
    · exact atomic_done quiet_nil
    · exact atomic_fail quiet_nil

theorem atomic_outputSize : s.outputSize.Atomic s := by
  unfold outputSize
  split
  · exact atomic_fail quiet_nil
  · exact atomic_done quiet_nil

/-- **Every call is atomic.** -/
theorem atomic_step (s : Session) (c : Call) : (s.step c).Atomic s := by
  cases c with
  | createTexture config data => exact atomic_map (atomic_keepTexture _)
  | createTextureFromPng picture name => exact atomic_map (atomic_keepTexture _)
  | createStage size format => exact atomic_map (atomic_createStage _ _)
  | createShader stage descriptor => exact atomic_map (atomic_createShader _ _)
  | createSampler sampler => exact atomic_map (atomic_createSampler _)
  | declined call => exact atomic_map (atomic_fail quiet_nil)
  | setParam param value => exact atomic_map (atomic_setParam _ _)
  | popProjection => exact atomic_map atomic_popProjection
  | clear flags color depth stencil => exact atomic_map (atomic_clear _ _)
  | copyTexture dst src =>
    exact atomic_map (atomic_commit quiet_nil (Memory.calm_copyTexture _ _ _))
  | copyRegion dst src region =>
    exact atomic_map (atomic_commit quiet_nil (Memory.calm_copyRegion _ _ _ _))
  | stageTexture dst src =>
    exact atomic_map (atomic_commit quiet_nil (Memory.calm_stageTexture _ _ _))
  | draw mode start count => exact atomic_map (atomic_draw _ _ _)
  | present => exact atomic_map atomic_present
  | resize size => exact atomic_map (atomic_resize _)
  | outputSize => exact atomic_map atomic_outputSize
  | _ => exact atomic_map (atomic_done quiet_nil)

end Session

/-! ## Calls carried out in place -/

/-- **Calls that fail change nothing.** Carried out from any state, a call ends: no word overflows,
no slice leaves its buffer, no surface is taken hold of twice, and in the end nobody holds one. If
it failed, every surface, binding and setting is what it was, and of errors it told the one it
answers, last. If it answered, it told no error. -/
theorem failed_calls_change_nothing (s : Session) (c : Call) :
    ∃ w, (Workspace.perform c).run { session := s } = .ok ((s.step c).answer, w) ∧ w.Idle ∧
      w.session = (s.step c).session ∧ w.log = (s.step c).log ∧
      (∀ e, (s.step c).answer = .error e →
        w.session = s ∧ ∃ before : Log, w.log = before ++ [.failed e] ∧
          ∀ r ∈ before, r.level ≠ .error) ∧
      ∀ a, (s.step c).answer = .ok a → ∀ r ∈ w.log, r.level ≠ .error := by
  have hidle : Workspace.Idle { session := s } := fun _ => rfl
  obtain ⟨hunchanged, hquiet⟩ := s.atomic_step c
  refine ⟨_, Workspace.run_perform hidle c, hidle, rfl, List.nil_append _, ?_, ?_⟩
  · intro e he
    obtain ⟨hsession, before, hlog, hbefore⟩ := hunchanged e he
    exact ⟨hsession, before, (List.nil_append _).trans hlog, hbefore⟩
  · intro a ha
    dsimp only [Workspace.settle]
    rw [List.nil_append]
    exact hquiet a ha

/-- A device with two textures of different sizes. -/
def twoSizes : Session := ⟨{}, { textures := #[twoPixels, threeBlanks] }⟩

/-- One of them does not go onto the other; onto nothing a clear goes without a word. -/
theorem failed_copy_changes_nothing :
    (∃ w, (Workspace.perform (.copyTexture ⟨1⟩ ⟨0⟩)).run { session := twoSizes } =
        .ok (.error (.sizeMismatch ⟨2, 1⟩ ⟨3, 1⟩), w) ∧
      w.session = twoSizes ∧ w.log = [.failed (.sizeMismatch ⟨2, 1⟩ ⟨3, 1⟩)]) ∧
    ∃ w, (Workspace.perform (.clear ⟨true, true, true⟩ Vec4.zero 0 0)).run { session := twoSizes } =
        .ok (.ok .done, w) ∧ ∀ r ∈ w.log, r.level ≠ .error := by
  constructor
  · have hanswer : (twoSizes.step (.copyTexture ⟨1⟩ ⟨0⟩)).answer =
        .error (.sizeMismatch ⟨2, 1⟩ ⟨3, 1⟩) := rfl
    have hlog : (twoSizes.step (.copyTexture ⟨1⟩ ⟨0⟩)).log =
        [.failed (.sizeMismatch ⟨2, 1⟩ ⟨3, 1⟩)] := rfl
    obtain ⟨w, hrun, _, _, hw, hfail, _⟩ :=
      failed_calls_change_nothing twoSizes (.copyTexture ⟨1⟩ ⟨0⟩)
    rw [hanswer] at hrun
    exact ⟨w, hrun, (hfail _ hanswer).1, hw.trans hlog⟩
  · obtain ⟨w, hrun, _, _, _, _, hdone⟩ :=
      failed_calls_change_nothing twoSizes (.clear ⟨true, true, true⟩ Vec4.zero 0 0)
    exact ⟨w, hrun, hdone .done rfl⟩

end BlitDevice
