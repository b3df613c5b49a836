import BlitDevice.Proofs.Surfaces

/-!
# Surfaces over whole runs

What one call does to a surface is known; a run is one call after the other.

* `Session.Began` — what a surface held when the run began, or when a call of the run handed it out.
* `Session.repainted_run`, `Session.exists_began`, `Session.repainted_of_began` — over a run, every
  surface stays what it began as, with other pixels in level 0.
* `Session.sizeAfter`, `Session.output_run` — the output of a view has the size it was given last.
* `surfaces_over_runs` — all of it, with what one more call can change.
-/

set_option autoImplicit false

namespace BlitDevice.Session

variable {s : Session} {c : Call} {cs : List Call} {f : Surface} {t : Texture} {id : ViewId}

/-- The session a list of calls leaves. -/
def after (s : Session) (cs : List Call) : Session := (s.run cs).2

theorem after_cons (s : Session) (c : Call) (cs : List Call) :
    s.after (c :: cs) = (s.step c).session.after cs := rfl

theorem after_append (s : Session) (cs ds : List Call) :
    s.after (cs ++ ds) = (s.after cs).after ds := by
  induction cs generalizing s with
  | nil => rfl
  | cons c cs ih => exact ih (s.step c).session

/-! ## Textures and stage surfaces -/

/-- What a surface held when the run began, or when a call of the run handed it out. -/
inductive Began (s : Session) (cs : List Call) (f : Surface) (t : Texture) : Prop where
  | there : s.memory.Has f → s.memory.load f = t → Began s cs f t
  | handedOut {before later : List Call} {c : Call} : cs = before ++ c :: later →
      ((s.after before).step c).handedOut? = some f → c.created? = some t → Began s cs f t

/-- Surfaces stay. -/
theorem has_run (h : s.memory.Has f) : (s.after cs).memory.Has f := by
  induction cs generalizing s with
  | nil => exact h
  | cons c cs ih => exact ih (has_step.mpr (.inl h))

/-- A texture or a stage surface keeps all but its pixels in level 0. -/
theorem repainted_run (hf : f.isOutput = false) (h : s.memory.Has f) :
    (s.memory.load f).Repainted ((s.after cs).memory.load f) := by
  induction cs generalizing s with
  | nil => exact .refl _
  | cons c cs ih => exact (repainted_step h (.inl hf)).trans (ih (has_step.mpr (.inl h)))

/-- What is there at the end was there from the start or was handed out on the way. -/
theorem exists_began (h : (s.after cs).memory.Has f) : ∃ t, s.Began cs f t := by
  induction cs generalizing s with
  | nil => exact ⟨_, .there h rfl⟩
  | cons c cs ih =>
    obtain ⟨t, hbegan⟩ := ih h
    cases hbegan with
    | there hhas _ =>
      rcases has_step.mp hhas with hold | hnew
      · exact ⟨_, .there hold rfl⟩
      · have hcs : c :: cs = [] ++ c :: cs := rfl
        exact ⟨_, .handedOut hcs hnew (load_handedOut hnew).2⟩
    | @handedOut before later d hcs hout hd =>
      have hcs' : c :: cs = (c :: before) ++ d :: later := congrArg (c :: ·) hcs
      exact ⟨t, .handedOut hcs' hout hd⟩

/-- A surface stays, with what it began as but for pixels of level 0. -/
theorem repainted_of_began (hf : f.isOutput = false) (h : s.Began cs f t) :
    (s.after cs).memory.Has f ∧ t.Repainted ((s.after cs).memory.load f) := by
  cases h with
  | there hhas hload =>
    subst hload
    exact ⟨has_run hhas, repainted_run hf hhas⟩
  | @handedOut before later c hcs hout hc =>
    have hhas : ((s.after before).step c).session.memory.Has f := has_step.mpr (.inr hout)
    have hload := (load_handedOut hout).2
    rw [hc] at hload
    cases hload
    rw [hcs, after_append, after_cons]
    exact ⟨has_run hhas, repainted_run hf hhas⟩

/-! ## Outputs of views -/

/-- The size a view's output was given last, from the one it has. -/
def sizeAfter (s : Session) (id : ViewId) (size : Size) : List Call → Size
  | [] => size
  | c :: cs => sizeAfter (s.step c).session id ((s.resized? c id).getD size) cs

/-- The output of a view is one that outputs are created as, of the size it was given last. -/
theorem output_run {size : Size} (h : s.memory.Has (.output id))
    (hout : (s.memory.view id).output.config = View.outputConfig size) :
    ((s.after cs).memory.view id).output.config =
      View.outputConfig (s.sizeAfter id size cs) := by
  induction cs generalizing s size with
  | nil => exact hout
  | cons c cs ih =>
    refine ih (has_step.mpr (.inl h)) ?_
    rw [output_step h]
    cases s.resized? c id with
    | none => exact hout
    | some size' => rfl

theorem hasOutput_view (hviews : ∀ v ∈ s.memory.views, v.HasOutput)
    (h : s.memory.Has (.output id)) : (s.memory.view id).HasOutput := by
  have hlt : id.index < s.memory.views.size := h
  rw [Memory.view, Array.getElem?_eq_getElem hlt, Option.getD_some]
  exact hviews _ (Array.getElem_mem hlt)

end BlitDevice.Session

namespace BlitDevice

open Session

/-- **Surfaces over whole runs.** Let every view of a session be one that was created, and let any
calls be made.

A texture or a stage surface that is there afterwards was there from the start or was handed out by
one of the calls. It has the size, levels, format, usage and name that it began with, a buffer of
that many bytes, and beyond level 0 the bytes that it began with.

The output of a view is an RGBA texture of the size it was given last.

One more call leaves every surface but its target as it is, and of its target all but level 0. Only
resizing does more: where it answers, the loaded view has an output of that size which is all zero.
A draw leaves the bound image as it is. -/
theorem surfaces_over_runs (s : Session) (hviews : ∀ v ∈ s.memory.views, v.HasOutput)
    (cs : List Call) :
    (∀ f, (s.after cs).memory.Has f → ∃ t, s.Began cs f t) ∧
    (∀ f t, f.isOutput = false → s.Began cs f t → (s.after cs).memory.Has f ∧
      ((s.after cs).memory.load f).config = t.config ∧ 0 < t.levels.toNat ∧
      ((s.after cs).memory.load f).bytes.size =
        t.format.bytesPerPixel * t.size.cols * t.size.rows * t.levels.toNat ∧
      ∀ i, t.level0Size ≤ i → ((s.after cs).memory.load f).bytes[i]? = t.bytes[i]?) ∧
    (∀ id, s.memory.Has (.output id) →
      ((s.after cs).memory.view id).output.config =
        View.outputConfig (s.sizeAfter id (s.memory.view id).size cs)) ∧
    ∀ c,
      (∀ f, (s.after cs).memory.Has f → (s.after cs).target c ≠ some f →
        ((s.after cs).step c).session.memory.load f = (s.after cs).memory.load f) ∧
      (∀ f, (s.after cs).memory.Has f → (∀ size, c ≠ .resize size) →
        ((s.after cs).memory.load f).Repainted (((s.after cs).step c).session.memory.load f)) ∧
      (∀ size id a, c = .resize size → (s.after cs).context.swapchain = some id →
        (s.after cs).memory.Has (.output id) → ((s.after cs).step c).answer = .ok a →
        (((s.after cs).step c).session.memory.view id).output.config = View.outputConfig size ∧
        ∀ b ∈ (((s.after cs).step c).session.memory.view id).output.bytes, b = 0) ∧
      ∀ mode start count image, c = .draw mode start count →
        (s.after cs).context.params.image = some image →
        ((s.after cs).step c).session.memory.load (.texture image) =
          (s.after cs).memory.load (.texture image) := by
  refine ⟨fun f => exists_began, ?_, ?_, ?_⟩
  · intro f t hf hbegan
    obtain ⟨hhas, hrepainted⟩ := repainted_of_began hf hbegan
    exact ⟨hhas, hrepainted.config_eq, t.levels_pos, hrepainted.size_bytes_eq, hrepainted.rest_eq⟩
  · intro id hhas
    exact output_run hhas (hasOutput_view hviews hhas)
  · intro c
    refine ⟨fun f => load_step, fun f hhas hc => repainted_step hhas (.inr hc), ?_, ?_⟩
    · rintro size id a rfl hid hhas ha
      exact output_resize hid hhas ha
    · rintro mode start count image rfl himage
      exact load_image_draw himage

/-- A view of one pixel, as it is created. -/
def onePixelView : View := ⟨.ofBytes (View.outputConfig ⟨1, 1⟩) #[0, 0, 0, 0] rfl, 0⟩

/-- A device with a view and two textures. -/
def withView : Session := ⟨{}, { textures := #[twoPixels, threeBlanks], views := #[onePixelView] }⟩

/-- Takes a texture in, copies two pixels beside a blank one and gives the view another size. -/
def shortRun : List Call :=
  [.createTexture ⟨⟨1, 1⟩, .bgra, 2, .dynamic, "probe"⟩ (some #[1, 2, 3, 4, 5, 6, 7, 8]),
    .copyRegion ⟨1⟩ ⟨0⟩ ⟨1, 0, 0, 0, 0, 0⟩, .loadSwapchain (some ⟨0⟩), .resize ⟨3, 2⟩]

/-- Beyond level 0 neither the old texture nor the new one has other bytes. The view is as large as
was asked for, and one more copy leaves it alone. -/
theorem surfaces_over_shortRun :
    (∀ v ∈ withView.memory.views, v.HasOutput) ∧
    ((withView.after shortRun).memory.texture ⟨1⟩).config = threeBlanks.config ∧
    ((withView.after shortRun).memory.texture ⟨1⟩).bytes[12]? = some 0 ∧
    ((withView.after shortRun).memory.texture ⟨2⟩).bytes[7]? = some 8 ∧
    ((withView.after shortRun).memory.view ⟨0⟩).output.config = View.outputConfig ⟨3, 2⟩ ∧
    (((withView.after shortRun).step (.copyTexture ⟨1⟩ ⟨0⟩)).session.memory.view ⟨0⟩).output =
      ((withView.after shortRun).memory.view ⟨0⟩).output := by
  have hcreate : View.create ⟨1, 1⟩ = .ok onePixelView := rfl
  have hviews : ∀ v ∈ withView.memory.views, v.HasOutput := by
    intro v hv
    rw [Array.mem_singleton.mp hv]
    exact View.hasOutput_create hcreate
  obtain ⟨_, hkept, hviewSize, hnext⟩ := surfaces_over_runs withView hviews shortRun
  have hold : withView.Began shortRun (.texture ⟨1⟩) threeBlanks := .there (by decide) rfl
  have hfirst : shortRun = [] ++ shortRun.head (by decide) :: shortRun.tail := rfl
  have hnew := hkept (.texture ⟨2⟩) _ rfl (.handedOut hfirst rfl rfl)
  obtain ⟨_, hconfig, _, _, hrest⟩ := hkept _ _ rfl hold
  refine ⟨hviews, hconfig, hrest 12 (by decide), hnew.2.2.2.2 7 (by decide),
    hviewSize ⟨0⟩ (by decide), ?_⟩
  exact (hnext (.copyTexture ⟨1⟩ ⟨0⟩)).1 (.output ⟨0⟩) (has_run (by decide)) (by decide)

end BlitDevice
