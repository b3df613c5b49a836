import BlitDevice.Proofs.Layers
import BlitDevice.Proofs.Surfaces

/-!
# Calls on pixels as tasks

A clear, a copy or a draw comes down to very little: one engine is set to one surface, or nothing is
done.

* `Engine`, `Engine.result` — what works on a surface, and what it makes of the pixels there.
  `Engine.result_congr` says what it reads, `Engine.overlaid_result` what it paints, and
  `Engine.answers_eq` that the bytes it paints over have no say in whether it does.
* `Task`, `Task.said`, `Task.next` — an engine set to a surface that it does not read, and what
  comes of it.
* `DrawContext.task`, `Session.step_paints` — a call on pixels carries its task out, and does
  nothing else.
* `Task.said_again`, `Task.next_again` — carried out once more, a task says the same and changes
  nothing.
* `pixel_calls_idempotent` — nor does the call.
-/

set_option autoImplicit false

namespace BlitDevice

/-! ## Engines -/

/-- What works on the pixels of a surface. A blit's rectangles may depend on the size of its
source. -/
inductive Engine where
  | fill (color : Vec4 Float32)
  | copyAll (src : TextureId)
  | blit (src : TextureId) (srcRect dstRect : Size → Rect)
  | luma (src : TextureId) (color : Vec4 Float32)

/-- A colour in a format has the bytes of one pixel. -/
theorem Rgba8.length_encode? {c : Rgba8} {f : PixelFormat} {px : List UInt8}
    (h : c.encode? f = some px) : px.length = f.bytesPerPixel := by
  unfold encode? at h
  split at h <;> cases h
  all_goals simp [PixelFormat.bytesPerPixel, PixelFormat.bytesPerPixel?, PixelFormat.isCompressed,
    PixelFormat.bitsPerPixel]

/-- So has the pixel a clear fills with. -/
theorem Workspace.length_clearPixel {f : PixelFormat} {color : Vec4 Float32} {px : List UInt8}
    (h : clearPixel f color = .ok px) : px.length = f.bytesPerPixel := by
  unfold clearPixel at h
  split at h
  · rename_i hpx
    cases h
    exact Rgba8.length_encode? hpx
  · cases h

namespace Engine

variable {e : Engine} {m m' : Memory} {t t' u : Texture} {log : Log}

/-- The surface an engine reads. -/
def source : Engine → Option Surface
  | fill _ => none
  | copyAll src => some (.texture src)
  | blit src _ _ => some (.texture src)
  | luma src _ => some (.texture src)

/-- What an engine makes of the pixels it is set to. -/
def result (m : Memory) (t : Texture) : Engine → Except Error (Texture × Log)
  | fill color => (Workspace.clearPixel t.format color).map fun px => (t.fill px, [])
  | copyAll src => do
    Memory.checkAlike (m.texture src) t
    BlitDevice.blit (m.texture src) t (.covering (m.texture src).size) (.covering t.size)
  | blit src srcRect dstRect =>
    BlitDevice.blit (m.texture src) t (srcRect (m.texture src).size) (dstRect (m.texture src).size)
  | luma src color => (convertToLuma (m.texture src) t color).map fun plane => (plane, [])

/-- What an engine paints over pixels of a size and a format. -/
def layer (m : Memory) (size : Size) (format : PixelFormat) : Engine → Layer
  | fill color => fun _ => (Workspace.clearPixel format color).toOption
  | copyAll src =>
    blitLayer (m.texture src) format (.covering (m.texture src).size) (.covering size)
  | blit src srcRect dstRect =>
    blitLayer (m.texture src) format (srcRect (m.texture src).size) (dstRect (m.texture src).size)
  | luma src color => lumaLayer (m.texture src) color

/-- **An engine reads its source**, and of memory nothing else. -/
theorem result_congr (h : ∀ f, e.source = some f → m'.load f = m.load f) (t : Texture) :
    e.result m' t = e.result m t := by
  cases e with
  | fill color => rfl
  | copyAll src =>
    have hsrc : m'.texture src = m.texture src := h (.texture src) rfl
    simp only [result, hsrc]
  | blit src srcRect dstRect =>
    have hsrc : m'.texture src = m.texture src := h (.texture src) rfl
    simp only [result, hsrc]
  | luma src color =>
    have hsrc : m'.texture src = m.texture src := h (.texture src) rfl
    simp only [result, hsrc]

/-- **An engine paints its layer.** -/
theorem overlaid_result (h : e.result m t = .ok (u, log)) :
    t.Overlaid (e.layer m t.size t.format) u := by
  cases e with
  | fill color =>
    cases hpx : Workspace.clearPixel t.format color with
    | error e =>
      simp only [result, hpx] at h
      cases h
    | ok px =>
      simp only [result, hpx] at h
      cases h
      have hfill : t.Overlaid (fun _ => some px) (t.fill px) :=
        Texture.overlaid_fill (Workspace.length_clearPixel hpx)
      simp only [layer, hpx]
      exact hfill
  | copyAll src =>
    obtain ⟨_, _, hblit⟩ := bind_eq_ok.mp h
    exact overlaid_blit hblit
  | blit src srcRect dstRect => exact overlaid_blit h
  | luma src color =>
    cases hplane : convertToLuma (m.texture src) t color with
    | error e =>
      simp only [result, hplane] at h
      cases h
    | ok plane =>
      simp only [result, hplane] at h
      cases h
      exact overlaid_convertToLuma hplane

/-- **Whether an engine answers does not depend on a byte it paints over**, nor does what it
tells. -/
theorem answers_eq (hsize : t'.size = t.size) (hformat : t'.format = t.format) (e : Engine)
    (m : Memory) : (e.result m t').map Prod.snd = (e.result m t).map Prod.snd := by
  cases e with
  | fill color =>
    simp only [result, hformat]
    cases Workspace.clearPixel t.format color <;> rfl
  | copyAll src =>
    have halike : Memory.checkAlike (m.texture src) t' = Memory.checkAlike (m.texture src) t := by
      simp only [Memory.checkAlike, hsize, hformat]
    simp only [result, halike, hsize]
    cases Memory.checkAlike (m.texture src) t with
    | error e => rfl
    | ok u => exact blit_answers hsize hformat
  | blit src srcRect dstRect => exact blit_answers hsize hformat
  | luma src color =>
    have hsnd : ∀ r : Except Error Texture,
        (r.map fun plane => (plane, ([] : Log))).map Prod.snd = r.map fun _ => [] := by
      intro r
      cases r <;> rfl
    rw [result, result, hsnd, hsnd]
    exact convertToLuma_answers [] hsize hformat

/-- The pixels afterwards: those that were come to, or those there were. -/
def painted (e : Engine) (m : Memory) (t : Texture) : Texture :=
  match e.result m t with
  | .ok (u, _) => u
  | .error _ => t

/-- An engine that fails on a texture fails on every texture like it, and leaves it alone. -/
theorem painted_of_error {err : Error} (h : e.result m t = .error err) (hsize : t'.size = t.size)
    (hformat : t'.format = t.format) : e.painted m t' = t' := by
  have hanswers := e.answers_eq hsize hformat m
  rw [h] at hanswers
  cases hresult : e.result m t' with
  | error e' => simp only [painted, hresult]
  | ok a => rw [hresult] at hanswers; cases hanswers

/-- An engine that does not fail on a texture paints the same layer over every texture like it. -/
theorem overlaid_painted (h : e.result m t = .ok (u, log)) (hsize : t'.size = t.size)
    (hformat : t'.format = t.format) :
    t'.Overlaid (e.layer m t.size t.format) (e.painted m t') := by
  have hanswers := e.answers_eq hsize hformat m
  rw [h] at hanswers
  cases hresult : e.result m t' with
  | error e' => rw [hresult] at hanswers; cases hanswers
  | ok a =>
    have hover := overlaid_result hresult
    rw [hsize, hformat] at hover
    simp only [painted, hresult]
    exact hover

/-- What an engine leaves is a texture like the one it was set to. -/
theorem repainted_painted (e : Engine) (m : Memory) (t : Texture) :
    t.Repainted (e.painted m t) := by
  cases h : e.result m t with
  | error err =>
    rw [painted_of_error h rfl rfl]
    exact .refl t
  | ok a => exact (overlaid_painted h rfl rfl).repainted

/-- **Painting again changes nothing.** -/
theorem painted_again (e : Engine) (m : Memory) (t : Texture) :
    e.painted m (e.painted m t) = e.painted m t := by
  have hconfig := (e.repainted_painted m t).config_eq
  have hsize := Texture.size_of_config hconfig
  have hformat := Texture.format_of_config hconfig
  cases h : e.result m t with
  | error err => rw [painted_of_error h hsize hformat]
  | ok a => exact (overlaid_painted h hsize hformat).eq (overlaid_painted h rfl rfl).again

end Engine

/-! ## Storing -/

namespace Memory

variable {m : Memory} {f g : Surface} {t u : Texture}

/-- Nothing can be stored in a surface that was never given out. -/
theorem store_of_not_has (h : ¬ m.Has f) : m.store f t = m := by
  cases f with
  | texture id =>
    have hsize : m.textures.size ≤ id.index := Nat.le_of_not_lt h
    simp only [store, setTexture, Array.setIfInBounds_eq_of_size_le hsize]
  | stage id =>
    have hsize : m.stages.size ≤ id.index := Nat.le_of_not_lt h
    simp only [store, setStage, Array.setIfInBounds_eq_of_size_le hsize]
  | output id =>
    have hsize : m.views.size ≤ id.index := Nat.le_of_not_lt h
    simp only [store, setView, Array.setIfInBounds_eq_of_size_le hsize]

/-- Reading a surface after something was stored. -/
theorem load_store (m : Memory) (f g : Surface) (t : Texture) :
    (m.store f t).load g = if f = g ∧ m.Has f then t else m.load g := by
  split
  · rename_i h
    obtain ⟨rfl, hhas⟩ := h
    exact load_store_self hhas
  · rename_i h
    by_cases hf : f = g
    · rw [store_of_not_has fun hhas => h ⟨hf, hhas⟩]
    · exact load_store_of_ne hf

/-- What is stored in a surface replaces what was stored there before. -/
theorem store_store : (m.store f t).store f u = m.store f u := by
  cases f with
  | texture id => simp only [store, setTexture, Array.setIfInBounds_setIfInBounds]
  | stage id => simp only [store, setStage, Array.setIfInBounds_setIfInBounds]
  | output id =>
    have hpresented : ((m.store (.output id) t).view id).presented = (m.view id).presented := by
      simp only [store, view_setView]
      split <;> rfl
    simp only [store] at hpresented
    simp only [store, hpresented]
    simp only [setView, Array.setIfInBounds_setIfInBounds]

/-- Two surfaces can be stored in either order. -/
theorem store_comm (h : f ≠ g) : (m.store f t).store g u = (m.store g u).store f t := by
  cases f with
  | texture id =>
    cases g with
    | texture other =>
      obtain ⟨i⟩ := id
      obtain ⟨j⟩ := other
      have hne : i ≠ j := by
        rintro rfl
        exact h rfl
      simp only [store, setTexture, Array.setIfInBounds_comm _ _ hne]
    | stage other => rfl
    | output other => rfl
  | stage id =>
    cases g with
    | texture other => rfl
    | stage other =>
      obtain ⟨i⟩ := id
      obtain ⟨j⟩ := other
      have hne : i ≠ j := by
        rintro rfl
        exact h rfl
      simp only [store, setStage, Array.setIfInBounds_comm _ _ hne]
    | output other => rfl
  | output id =>
    cases g with
    | texture other => rfl
    | stage other => rfl
    | output other =>
      obtain ⟨i⟩ := id
      obtain ⟨j⟩ := other
      have hne : i ≠ j := by
        rintro rfl
        exact h rfl
      -- each view keeps its own count of frames, which storing the other one does not change
      have hview : ∀ v, (m.setView ⟨i⟩ v).view ⟨j⟩ = m.view ⟨j⟩ := by
        intro v
        rw [view_setView, if_neg fun e => hne (congrArg ViewId.index e.1)]
      have hview' : ∀ v, (m.setView ⟨j⟩ v).view ⟨i⟩ = m.view ⟨i⟩ := by
        intro v
        rw [view_setView, if_neg fun e => hne (congrArg ViewId.index e.1).symm]
      simp only [store, hview, hview']
      simp only [setView, Array.setIfInBounds_comm _ _ hne]

end Memory

namespace Engine

variable {e : Engine} {f : Surface}

/-- What is stored elsewhere does not change what an engine does. -/
theorem result_store (h : e.source ≠ some f) (m : Memory) (t u : Texture) :
    e.result (m.store f t) u = e.result m u := by
  refine result_congr (fun g hg => Memory.load_store_of_ne ?_) u
  rintro rfl
  exact h hg

theorem painted_store (h : e.source ≠ some f) (m : Memory) (t u : Texture) :
    e.painted (m.store f t) u = e.painted m u := by
  rw [painted, painted, result_store h]

end Engine

/-! ## Tasks -/

/-- What a call on pixels comes down to. An engine is never set to the surface it reads. -/
inductive Task where
  | idle
  | refuse (e : Error)
  | paint (dst : Surface) (engine : Engine) (apart : engine.source ≠ some dst)

namespace Task

variable {m : Memory} {dst : Surface} {e : Engine}

/-- Sets an engine to a surface, unless it reads that. -/
def set (dst : Surface) (e : Engine) : Task :=
  if h : e.source = some dst then refuse .textureAliasing else paint dst e h

/-- The memory afterwards and what is told, or why nothing is done. -/
def result (m : Memory) : Task → Except Error (Memory × Log)
  | idle => .ok (m, [])
  | refuse e => .error e
  | paint dst e _ => m.storing dst (e.result m (m.load dst))

/-- What is told, or why nothing is done. -/
def said (m : Memory) (t : Task) : Except Error Log := (t.result m).map Prod.snd

/-- The memory afterwards. -/
def next (m : Memory) (t : Task) : Memory :=
  match t.result m with
  | .ok (m', _) => m'
  | .error _ => m

theorem result_set (h : e.source ≠ some dst) :
    (set dst e).result m = m.storing dst (e.result m (m.load dst)) := by
  rw [set, dif_neg h, result]

theorem result_set_self (h : e.source = some dst) :
    (set dst e).result m = .error .textureAliasing := by
  rw [set, dif_pos h, result]

theorem said_paint {apart : e.source ≠ some dst} :
    (paint dst e apart).said m = (e.result m (m.load dst)).map Prod.snd := by
  rw [said, result, Memory.storing]
  cases e.result m (m.load dst) <;> rfl

/-- The surface is given the pixels that were come to; those there were are put back. -/
theorem next_paint {apart : e.source ≠ some dst} :
    (paint dst e apart).next m = m.store dst (e.painted m (m.load dst)) := by
  rw [next, result, Memory.storing, Engine.painted]
  cases e.result m (m.load dst) with
  | ok a => rfl
  | error err => exact (m.store_load dst).symm

/-- What a task says does not depend on what was painted on its surface. -/
theorem said_next_paint {e' : Engine} {apart : e.source ≠ some dst}
    {apart' : e'.source ≠ some dst} :
    (paint dst e apart).said ((paint dst e' apart').next m) = (paint dst e apart).said m := by
  rw [next_paint, said_paint, said_paint, Engine.result_store apart]
  by_cases hhas : m.Has dst
  · have hconfig := (e'.repainted_painted m (m.load dst)).config_eq
    rw [Memory.load_store_self hhas]
    exact e.answers_eq (Texture.size_of_config hconfig) (Texture.format_of_config hconfig) m
  · rw [Memory.store_of_not_has hhas]

/-- **A task that was carried out says the same again.** -/
theorem said_again (m : Memory) (t : Task) : t.said (t.next m) = t.said m := by
  cases t with
  | idle => rfl
  | refuse e => rfl
  | paint dst e apart => exact said_next_paint

/-- **A task that was carried out changes nothing any more.** -/
theorem next_again (m : Memory) (t : Task) : t.next (t.next m) = t.next m := by
  cases t with
  | idle => rfl
  | refuse e => rfl
  | paint dst e apart =>
    by_cases hhas : m.Has dst
    · rw [next_paint, next_paint, Engine.painted_store apart, Memory.load_store_self hhas,
        Engine.painted_again, Memory.store_store]
    · simp only [next_paint, Memory.store_of_not_has hhas]

end Task

/-! ## Calls on pixels -/

/-- The call is a clear, a copy or a draw. -/
def Call.paints : Call → Bool
  | .clear .. | .copyTexture .. | .copyRegion .. | .stageTexture .. | .draw .. => true
  | _ => false

/-- What a decision comes down to. -/
def Decision.task : Decision → Task
  | refuse e => .refuse e
  | blit target image quad =>
    .set (.texture target) (.blit image (fun _ => quad.src) fun _ => quad.dst)
  | present view image quad =>
    .set (.output view) (.blit image (fun _ => quad.src) fun _ => quad.dst)
  | luma target image color => .set (.texture target) (.luma image color)

namespace DrawContext

/-- What a call on pixels comes down to; for other calls there is nothing to do. -/
def task (c : DrawContext) : Call → Task
  | .clear flags color _ _ =>
    match c.bindings.renderTarget with
    | some target => if flags.color then .set (.texture target) (.fill color) else .idle
    | none => .idle
  | .copyTexture dst src => .set (.texture dst) (.copyAll src)
  | .copyRegion dst src r => .set (.texture dst) (.blit src r.srcRect r.dstRect)
  | .stageTexture dst src => .set (.stage dst) (.copyAll src)
  | .draw mode start count => (c.decision mode start count).task
  | _ => .idle

/-- What a call on pixels tells beforehand. -/
def tells (c : DrawContext) : Call → Log
  | .draw .. => c.told
  | _ => []

/-- What is decided comes to what its task comes to. -/
theorem result_task_decision (c : DrawContext) (m : Memory) (mode : DrawMode)
    (start count : UInt32) :
    (c.decision mode start count).task.result m = (c.decision mode start count).result m := by
  have hrow := c.decides_decision mode start count
  generalize c.decision mode start count = d at hrow
  cases hrow with
  | @blit quad image target _ _ _ _ hne =>
    have hapart : (Engine.blit image (fun _ => quad.src) fun _ => quad.dst).source ≠
        some (.texture target) := by
      intro h
      cases h
      exact hne rfl
    rw [Decision.task, Task.result_set hapart, Decision.result, Memory.blitToTexture_eq]
    rfl
  | @present quad image view =>
    have hapart : (Engine.blit image (fun _ => quad.src) fun _ => quad.dst).source ≠
        some (.output view) := by
      intro h
      cases h
    rw [Decision.task, Task.result_set hapart, Decision.result, Memory.blitToView_eq]
    rfl
  | @luma image target _ _ _ hne =>
    have hapart : (Engine.luma image (c.params.colorVec 0)).source ≠ some (.texture target) := by
      intro h
      cases h
      exact hne rfl
    rw [Decision.task, Task.result_set hapart, Decision.result, Engine.result, Memory.load]
    cases convertToLuma (m.texture image) (m.texture target) (c.params.colorVec 0) <;> rfl
  | _ => rfl

end DrawContext

/-- What is answered and told. -/
def Outcome.said {α : Type} (o : Outcome α) : Except Error α × Log := (o.answer, o.log)

/-- Outcomes that say the same and leave the same are the same. -/
theorem Outcome.ext_said {α : Type} {o o' : Outcome α} (hsaid : o.said = o'.said)
    (hsession : o.session = o'.session) : o = o' := by
  obtain ⟨answer, log, session⟩ := o
  obtain ⟨answer', log', session'⟩ := o'
  simp only [said, Prod.mk.injEq] at hsaid
  obtain ⟨rfl, rfl⟩ := hsaid
  cases hsession
  rfl

namespace Session

/-- What is answered and told where a call commits: an error is told last. -/
def heard (told : Log) : Except Error Log → Except Error Answer × Log
  | .ok more => (.ok .done, told ++ more)
  | .error e => (.error e, told ++ [.failed e])

theorem said_commit (s : Session) (told : Log) (r : Except Error (Memory × Log)) :
    (s.commit told r).unit.said = heard told (r.map Prod.snd) := by
  cases r <;> rfl

/-- **A call on pixels carries its task out**, and does nothing else. -/
theorem step_paints (s : Session) {c : Call} (h : c.paints = true) :
    s.step c =
      (s.commit (s.context.tells c) ((s.context.task c).result s.memory)).unit := by
  cases c with
  | clear flags color depth stencil =>
    change (s.clear flags color).unit = _
    unfold clear DrawContext.task
    cases s.context.bindings.renderTarget with
    | none => rfl
    | some target =>
      dsimp only
      split
      · have hapart : (Engine.fill color).source ≠ some (.texture target) := nofun
        rw [Task.result_set hapart, Workspace.clear_eq]
        rfl
      · rfl
  | copyTexture dst src =>
    change (s.commit [] (s.memory.copyTexture dst src)).unit = _
    by_cases heq : dst = src
    · subst heq
      rw [Memory.copyTexture, if_pos rfl, DrawContext.task, Task.result_set_self rfl]
      rfl
    · have hapart : (Engine.copyAll src).source ≠ some (.texture dst) := by
        intro hsrc
        cases hsrc
        exact heq rfl
      rw [Memory.copyTexture_eq _ heq, DrawContext.task, Task.result_set hapart]
      rfl
  | copyRegion dst src r =>
    change (s.commit [] (s.memory.copyRegion dst src r)).unit = _
    by_cases heq : dst = src
    · subst heq
      rw [Memory.copyRegion, if_pos rfl, DrawContext.task, Task.result_set_self rfl]
      rfl
    · have hapart : (Engine.blit src r.srcRect r.dstRect).source ≠ some (.texture dst) := by
        intro hsrc
        cases hsrc
        exact heq rfl
      rw [Memory.copyRegion_eq _ heq, DrawContext.task, Task.result_set hapart]
      rfl
  | stageTexture dst src =>
    change (s.commit [] (s.memory.stageTexture dst src)).unit = _
    have hapart : (Engine.copyAll src).source ≠ some (.stage dst) := by
      intro hsrc
      cases hsrc
    rw [Memory.stageTexture_eq, DrawContext.task, Task.result_set hapart]
    rfl
  | draw mode start count =>
    change (s.draw mode start count).unit = _
    rw [draw_eq, DrawContext.task, DrawContext.result_task_decision]
    rfl
  | _ => cases h

/-- What a call on pixels leaves. -/
theorem session_paints (s : Session) {c : Call} (h : c.paints = true) :
    (s.step c).session = { s with memory := (s.context.task c).next s.memory } := by
  rw [step_paints s h]
  exact session_commit s _ _

/-- What a call on pixels answers and tells. -/
theorem said_step (s : Session) {c : Call} (h : c.paints = true) :
    (s.step c).said = heard (s.context.tells c) ((s.context.task c).said s.memory) := by
  rw [step_paints s h, said_commit]
  rfl

/-- What a call on pixels answers and tells follows from what its task says. -/
theorem said_paints {s s' : Session} {c : Call} (h : c.paints = true)
    (hcontext : s'.context = s.context)
    (hsaid : (s.context.task c).said s'.memory = (s.context.task c).said s.memory) :
    (s'.step c).said = (s.step c).said := by
  rw [said_step s' h, said_step s h, hcontext, hsaid]

end Session

/-- **Calls on pixels can be repeated.** In every state a clear, a copy or a draw that is made a
second time answers the same, tells the same and leaves every surface and every field of the device
as the first time left them. The first time leaves the device as it was: bindings, parameters,
transforms, saved projections and recorded state. -/
theorem pixel_calls_idempotent (s : Session) (c : Call) (h : c.paints = true) :
    (s.step c).session.step c = s.step c ∧ (s.step c).session.device = s.device := by
  have hsession := s.session_paints h
  have hagain : ((s.step c).session.step c).said = (s.step c).said := by
    refine Session.said_paints h ?_ ?_
    · rw [hsession]
      rfl
    · rw [hsession]
      exact Task.said_again s.memory _
  have hleft : ((s.step c).session.step c).session = (s.step c).session := by
    rw [Session.session_paints _ h, hsession]
    exact congrArg (fun memory => { s with memory }) (Task.next_again s.memory _)
  constructor
  · exact Outcome.ext_said hagain hleft
  · rw [hsession]

/-- Copies a blue and a green pixel beside a blank one. -/
def besideBlank : Call := .copyRegion ⟨1⟩ ⟨0⟩ ⟨1, 0, 0, 0, 0, 0⟩

/-- The pixels are there, and copied once more they are still there. -/
theorem besideBlank_twice :
    besideBlank.paints = true ∧
    ((twoSizes.step besideBlank).session.memory.texture ⟨1⟩).level0 =
      #[0, 0, 0, 0, 0, 0, 255, 255, 0, 255, 0, 255] ∧
    (twoSizes.step besideBlank).session.step besideBlank = twoSizes.step besideBlank ∧
    (twoSizes.step besideBlank).session.device = twoSizes.device := by
  have hpaints : besideBlank.paints = true := rfl
  exact ⟨hpaints, by decide, pixel_calls_idempotent twoSizes besideBlank hpaints⟩

end BlitDevice
