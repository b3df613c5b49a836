import BlitDevice.Proofs.Tasks

/-!
# Calls on pixels in either order

Two calls on pixels can be made in either order when neither writes where the other writes or reads,
and also when both copy into one texture, side by side.

* `Task.writes`, `Task.reads`, `Task.LeavesAlone` — what a task has to do with other surfaces.
* `Task.commute_of_apart` — tasks that leave each other alone can be carried out in either order;
  `Task.commute_of_disjoint` — so can tasks that paint different pixels of one surface.
* `Session.source`, `Session.LeavesAlone`, `Session.Commute` — the same for calls.
* `independent_calls_commute` — calls that leave each other alone, and copies of regions that do not
  overlap.
-/

set_option autoImplicit false

namespace BlitDevice

/-! ## Tasks -/

namespace Task

variable {m : Memory} {t t' : Task} {dst : Surface} {e e' : Engine}

/-- The surface a task writes. -/
def writes : Task → Option Surface
  | paint dst _ _ => some dst
  | _ => none

/-- The surface a task reads besides. -/
def reads : Task → Option Surface
  | paint _ e _ => e.source
  | _ => none

/-- The first task does not write what the second one writes or reads. -/
def LeavesAlone (t t' : Task) : Prop :=
  ∀ f, t.writes = some f → t'.writes ≠ some f ∧ t'.reads ≠ some f

/-- Each says what it says without the other, and in either order they leave the same. -/
structure Commute (m : Memory) (t t' : Task) : Prop where
  said_first : t.said (t'.next m) = t.said m
  said_second : t'.said (t.next m) = t'.said m
  next_next : t'.next (t.next m) = t.next (t'.next m)

theorem Commute.symm (h : Commute m t t') : Commute m t' t :=
  ⟨h.said_second, h.said_first, h.next_next.symm⟩

/-- What a task says does not depend on what is written elsewhere. -/
theorem said_next (h : t'.LeavesAlone t) (m : Memory) : t.said (t'.next m) = t.said m := by
  cases t' with
  | idle => rfl
  | refuse e => rfl
  | paint dst' e' apart' =>
    cases t with
    | idle => rfl
    | refuse e => rfl
    | paint dst e apart =>
      obtain ⟨hwrites, hreads⟩ := h dst' rfl
      have hne : dst' ≠ dst := by
        rintro rfl
        exact hwrites rfl
      rw [next_paint, said_paint, said_paint, Memory.load_store_of_ne hne,
        Engine.result_store hreads]

/-- **Tasks that leave each other alone can be carried out in either order.** -/
theorem commute_of_apart (h : t.LeavesAlone t') (h' : t'.LeavesAlone t) (m : Memory) :
    Commute m t t' := by
  refine ⟨said_next h' m, said_next h m, ?_⟩
  cases t with
  | idle => rfl
  | refuse e => rfl
  | paint dst e apart =>
    cases t' with
    | idle => rfl
    | refuse e' => rfl
    | paint dst' e' apart' =>
      obtain ⟨hwrites, hreads⟩ := h dst rfl
      obtain ⟨_, hreads'⟩ := h' dst' rfl
      have hne : dst ≠ dst' := by
        rintro rfl
        exact hwrites rfl
      simp only [next_paint]
      rw [Memory.load_store_of_ne hne, Memory.load_store_of_ne hne.symm,
        Engine.painted_store hreads, Engine.painted_store hreads', Memory.store_comm hne]

/-- A task that is refused can be at any time. -/
theorem commute_refuse (m : Memory) (t : Task) (err : Error) : Commute m t (refuse err) := by
  refine commute_of_apart (fun f _ => ?_) (fun f h => ?_) m
  · constructor
    · intro h
      cases h
    · intro h
      cases h
  · cases h

/-- The pixels two engines leave, if they paint different pixels, are the same in either order. -/
theorem painted_painted {pixels : Texture}
    (h : ∀ p, e.layer m pixels.size pixels.format p = none ∨
      e'.layer m pixels.size pixels.format p = none) :
    e'.painted m (e.painted m pixels) = e.painted m (e'.painted m pixels) := by
  have hconfig := (e.repainted_painted m pixels).config_eq
  have hsize := Texture.size_of_config hconfig
  have hformat := Texture.format_of_config hconfig
  have hconfig' := (e'.repainted_painted m pixels).config_eq
  have hsize' := Texture.size_of_config hconfig'
  have hformat' := Texture.format_of_config hconfig'
  cases hresult : e.result m pixels with
  | error err =>
    rw [Engine.painted_of_error hresult rfl rfl, Engine.painted_of_error hresult hsize' hformat']
  | ok a =>
    cases hresult' : e'.result m pixels with
    | error err =>
      rw [Engine.painted_of_error hresult' rfl rfl, Engine.painted_of_error hresult' hsize hformat]
    | ok a' =>
      exact Texture.Overlaid.swap h (Engine.overlaid_painted hresult rfl rfl)
        (Engine.overlaid_painted hresult' hsize hformat)
        (Engine.overlaid_painted hresult' rfl rfl)
        (Engine.overlaid_painted hresult hsize' hformat')

/-- **Tasks that paint different pixels of one surface can be carried out in either order.** -/
theorem commute_of_disjoint {apart : e.source ≠ some dst} {apart' : e'.source ≠ some dst}
    (h : ∀ p, e.layer m (m.load dst).size (m.load dst).format p = none ∨
      e'.layer m (m.load dst).size (m.load dst).format p = none) :
    Commute m (paint dst e apart) (paint dst e' apart') := by
  refine ⟨said_next_paint, said_next_paint, ?_⟩
  simp only [next_paint, Engine.painted_store apart, Engine.painted_store apart']
  by_cases hhas : m.Has dst
  · rw [Memory.load_store_self hhas, Memory.load_store_self hhas, Memory.store_store,
      Memory.store_store, painted_painted h]
  · simp only [Memory.store_of_not_has hhas]

theorem writes_set {f : Surface} (h : (set dst e).writes = some f) : dst = f := by
  unfold set at h
  split at h
  · cases h
  · cases h
    rfl

theorem reads_set {f : Surface} (h : (set dst e).reads = some f) : e.source = some f := by
  unfold set at h
  split at h
  · cases h
  · exact h

end Task

/-! ## Calls -/

/-- What a draw decides to write is where draws go, and what it decides to read is the image. -/
theorem DrawContext.footprint_decision (c : DrawContext) (mode : DrawMode) (start count : UInt32) :
    (∀ f, (c.decision mode start count).task.writes = some f → c.target = some f) ∧
      ∀ f, (c.decision mode start count).task.reads = some f →
        c.params.image.map Surface.texture = some f := by
  have hrow := c.decides_decision mode start count
  generalize c.decision mode start count = d at hrow
  cases hrow with
  | blit _ _ himage htarget _ =>
    rw [DrawContext.target, htarget, himage]
    exact ⟨fun f h => congrArg some (Task.writes_set h), fun f h => Task.reads_set h⟩
  | present _ _ himage htarget hview =>
    rw [DrawContext.target, htarget, hview, himage]
    exact ⟨fun f h => congrArg some (Task.writes_set h), fun f h => Task.reads_set h⟩
  | luma _ htarget himage _ =>
    rw [DrawContext.target, htarget, himage]
    exact ⟨fun f h => congrArg some (Task.writes_set h), fun f h => Task.reads_set h⟩
  | _ =>
    constructor
    · intro f h
      cases h
    · intro f h
      cases h

namespace Session

variable {s : Session} {a b c : Call} {f : Surface}

/-- The surface a call may read pixels of: the bound image for a draw, the source for a copy. -/
def source (s : Session) : Call → Option Surface
  | .draw .. => s.context.params.image.map .texture
  | .copyTexture _ src => some (.texture src)
  | .copyRegion _ src _ => some (.texture src)
  | .stageTexture _ src => some (.texture src)
  | _ => none

/-- The first call does not write what the second one writes or reads. -/
def LeavesAlone (s : Session) (a b : Call) : Prop :=
  ∀ f, s.target a = some f → s.target b ≠ some f ∧ s.source b ≠ some f

/-- Each answers and tells what it does without the other, and in either order they leave the
same. -/
structure Commute (s : Session) (a b : Call) : Prop where
  said_first : ((s.step b).session.step a).said = (s.step a).said
  said_second : ((s.step a).session.step b).said = (s.step b).said
  session_eq : ((s.step a).session.step b).session = ((s.step b).session.step a).session

/-- A task writes its call's target. -/
theorem target_of_writes (h : (s.context.task c).writes = some f) : s.target c = some f := by
  cases c with
  | clear flags color depth stencil =>
    unfold DrawContext.task at h
    unfold target
    cases htarget : s.context.bindings.renderTarget with
    | none =>
      rw [htarget] at h
      cases h
    | some id =>
      simp only [htarget] at h
      split at h
      · exact congrArg some (Task.writes_set h)
      · cases h
  | copyTexture dst src => exact congrArg some (Task.writes_set h)
  | copyRegion dst src r => exact congrArg some (Task.writes_set h)
  | stageTexture dst src => exact congrArg some (Task.writes_set h)
  | draw mode start count => exact (s.context.footprint_decision mode start count).1 f h
  | _ => cases h

/-- A task reads its call's source. -/
theorem source_of_reads (h : (s.context.task c).reads = some f) : s.source c = some f := by
  cases c with
  | clear flags color depth stencil =>
    unfold DrawContext.task at h
    cases htarget : s.context.bindings.renderTarget with
    | none =>
      rw [htarget] at h
      cases h
    | some id =>
      simp only [htarget] at h
      split at h
      · cases Task.reads_set h
      · cases h
  | copyTexture dst src => exact Task.reads_set h
  | copyRegion dst src r => exact Task.reads_set h
  | stageTexture dst src => exact Task.reads_set h
  | draw mode start count => exact (s.context.footprint_decision mode start count).2 f h
  | _ => cases h

/-- Calls that leave each other alone have tasks that do. -/
theorem leavesAlone_tasks (h : s.LeavesAlone a b) :
    (s.context.task a).LeavesAlone (s.context.task b) := by
  intro f hf
  obtain ⟨htarget, hsource⟩ := h f (target_of_writes hf)
  exact ⟨fun hw => htarget (target_of_writes hw), fun hr => hsource (source_of_reads hr)⟩

/-- Calls on pixels can be made in either order if their tasks can be carried out so. -/
theorem commute_of_tasks (ha : a.paints = true) (hb : b.paints = true)
    (h : Task.Commute s.memory (s.context.task a) (s.context.task b)) : s.Commute a b := by
  constructor
  · rw [s.session_paints hb]
    exact said_paints ha rfl h.said_first
  · rw [s.session_paints ha]
    exact said_paints hb rfl h.said_second
  · rw [s.session_paints ha, s.session_paints hb, session_paints _ ha, session_paints _ hb]
    exact congrArg (fun memory => { s with memory }) h.next_next

end Session

/-- The rectangles have no pixel in common. -/
def Rect.Disjoint (r r' : Rect) : Prop := ∀ p, ¬ (r.Reaches p ∧ r'.Reaches p)

/-- Regions that do not overlap can be copied into one texture in either order. -/
theorem Session.commute_copyRegion (s : Session) {dst src src' : TextureId} {r r' : Memory.Region}
    (h : (r.dstRect (s.memory.texture src).size).Disjoint
      (r'.dstRect (s.memory.texture src').size)) :
    s.Commute (.copyRegion dst src r) (.copyRegion dst src' r') := by
  refine commute_of_tasks rfl rfl ?_
  simp only [DrawContext.task, Task.set]
  split
  · exact (Task.commute_refuse _ _ _).symm
  · split
    · exact Task.commute_refuse _ _ _
    · refine Task.commute_of_disjoint fun p => ?_
      by_cases hp : (r.dstRect (s.memory.texture src).size).Reaches p
      · exact .inr (blitLayer_eq_none fun hp' => h p ⟨hp, hp'⟩)
      · exact .inl (blitLayer_eq_none hp)

/-- **Independent calls on pixels can be made in either order.** In every state, of two clears,
copies or draws neither of which writes where the other one writes or reads, each answers and tells
the same before and after the other, and in either order they leave the same session: every surface,
and the device.

So do two copies of regions into one texture that have no pixel of it in common. A copy of a texture
to itself is refused in either order. -/
theorem independent_calls_commute (s : Session) :
    (∀ a b, a.paints = true → b.paints = true → s.LeavesAlone a b → s.LeavesAlone b a →
      s.Commute a b) ∧
    ∀ dst src src' r r',
      (r.dstRect (s.memory.texture src).size).Disjoint
        (r'.dstRect (s.memory.texture src').size) →
      s.Commute (.copyRegion dst src r) (.copyRegion dst src' r') := by
  constructor
  · intro a b ha hb h h'
    exact Session.commute_of_tasks ha hb
      (Task.commute_of_apart (Session.leavesAlone_tasks h) (Session.leavesAlone_tasks h') _)
  · intro dst src src' r r' h
    exact s.commute_copyRegion h

/-- A device with two textures, and a stage surface as large as the first. -/
def withStage : Session where
  device := {}
  memory := {
    textures := #[twoPixels, threeBlanks]
    stages := #[⟨.ofBytes ⟨⟨2, 1⟩, .bgrx, 1, .static, ""⟩ #[0, 0, 0, 0, 0, 0, 0, 0] rfl⟩] }

/-- One texture is copied beside a blank pixel and staged, in either order. Its pixels are copied to
the two ends of the other texture, in either order. -/
theorem withStage_either_order :
    (withStage.LeavesAlone besideBlank (.stageTexture ⟨0⟩ ⟨0⟩) ∧
      withStage.LeavesAlone (.stageTexture ⟨0⟩ ⟨0⟩) besideBlank ∧
      withStage.Commute besideBlank (.stageTexture ⟨0⟩ ⟨0⟩)) ∧
    (Memory.Region.dstRect ⟨0, 0, 0, 0, 1, 1⟩ ⟨2, 1⟩).Disjoint
      (Memory.Region.dstRect ⟨2, 0, 1, 0, 0, 0⟩ ⟨2, 1⟩) ∧
    withStage.Commute (.copyRegion ⟨1⟩ ⟨0⟩ ⟨0, 0, 0, 0, 1, 1⟩)
      (.copyRegion ⟨1⟩ ⟨0⟩ ⟨2, 0, 1, 0, 0, 0⟩) := by
  obtain ⟨hcalls, hregions⟩ := independent_calls_commute withStage
  have halone : withStage.LeavesAlone besideBlank (.stageTexture ⟨0⟩ ⟨0⟩) := by
    intro f hf
    cases hf
    exact ⟨by decide, by decide⟩
  have halone' : withStage.LeavesAlone (.stageTexture ⟨0⟩ ⟨0⟩) besideBlank := by
    intro f hf
    cases hf
    exact ⟨by decide, by decide⟩
  have hleft : Memory.Region.dstRect ⟨0, 0, 0, 0, 1, 1⟩ ⟨2, 1⟩ = ⟨0, 0, 1, 1⟩ := by decide
  have hright : Memory.Region.dstRect ⟨2, 0, 1, 0, 0, 0⟩ ⟨2, 1⟩ = ⟨2, 0, 1, 1⟩ := by decide
  have hdisjoint : (Memory.Region.dstRect ⟨0, 0, 0, 0, 1, 1⟩ ⟨2, 1⟩).Disjoint
      (Memory.Region.dstRect ⟨2, 0, 1, 0, 0, 0⟩ ⟨2, 1⟩) := by
    rw [hleft, hright]
    rintro p ⟨hp, hp'⟩
    simp only [Rect.Reaches] at hp hp'
    omega
  exact ⟨⟨halone, halone', hcalls _ _ rfl rfl halone halone'⟩, hdisjoint,
    hregions ⟨1⟩ ⟨0⟩ ⟨0⟩ _ _ hdisjoint⟩

end BlitDevice
