import BlitDevice.Proofs.Runs

/-!
# Shared handles

One texture can be bound as the image and as the render target, and be given to calls besides.

* `Workspace.performAll`, `Workspace.run_performAll` — calls that are carried out one after the
  other end, each with nothing held.
* `Workspace.conflict_of_transfer_self` — a transfer from a texture to itself would not.
* `Unaliased` — what fails, if it fails, for other reasons than aliasing; engines do.
* `Session.copyTexture_aliasing_iff`, `Session.copyRegion_aliasing_iff`,
  `Session.draw_aliasing_iff` — who is refused for aliasing, exactly.
* `sharing_never_conflicts` — all of it.
-/

set_option autoImplicit false

namespace BlitDevice

namespace Workspace

open InPlace

variable {w : Workspace}

/-- Carries calls out, one after the other. -/
def performAll : List Call → Workspace → Checked (List (Except Error Answer) × Workspace)
  | [], w => .ok ([], w)
  | c :: cs, w => do
    let (answer, w) ← (perform c).run w
    let (answers, w) ← performAll cs w
    return (answer :: answers, w)

/-- **Calls that are carried out end**, with nothing held, as they are described. -/
theorem run_performAll (hidle : w.Idle) (cs : List Call) :
    ∃ w', performAll cs w = .ok ((w.session.run cs).1.map Outcome.answer, w') ∧ w'.Idle ∧
      w'.session = w.session.after cs := by
  induction cs generalizing w with
  | nil => exact ⟨w, rfl, hidle, rfl⟩
  | cons c cs ih =>
    have hsettled : (w.settle (w.session.step c)).2.Idle := hidle
    obtain ⟨w', hrun, hidle', hsession⟩ := ih hsettled
    refine ⟨w', ?_, hidle', hsession⟩
    rw [performAll, run_perform hidle c, ok_bind]
    change (performAll cs (w.settle (w.session.step c)).2 >>= _) = _
    rw [hrun]
    rfl

/-- A texture that is held for reading is not written: without a check, a transfer from a texture
to itself would end in a conflict. -/
theorem conflict_of_transfer_self (hidle : w.Idle) (id : TextureId)
    (engine : Texture → InPlace Canvas Unit) :
    (transfer (.texture id) id engine).run w = .error .conflict := by
  have hheld : (w.withHold (.texture id) (.shared 1)).held (.texture id) = .shared 1 :=
    held_withHold_self _ _ _
  have hwriting : ∀ x : InPlace Workspace Unit,
      (writing (.texture id) x).run (w.withHold (.texture id) (.shared 1)) = .error .conflict := by
    intro x
    simp only [writing, during, hheld, Hold.seize]
  simp only [transfer, reading, during, hidle (.texture id), Hold.share, Nat.zero_add]
  rw [hwriting]

end Workspace

/-! ## Who refuses for aliasing -/

/-- If it fails, then not for aliasing. -/
abbrev Unaliased {α : Type} (r : Except Error α) : Prop := FailsOnly (· ≠ .textureAliasing) r

theorem unaliased_blit (src dst : Texture) (srcRect dstRect : Rect) :
    Unaliased (blit src dst srcRect dstRect) := by
  unfold blit
  split
  · exact failsOnly_ok _
  · unfold blitByPixel
    split
    · exact failsOnly_error (by simp)
    · split
      · exact failsOnly_ok _
      · exact failsOnly_ok _

theorem unaliased_convertToLuma (src dst : Texture) (color : Vec4 Float32) :
    Unaliased (convertToLuma src dst color) := by
  unfold convertToLuma
  split
  · exact failsOnly_error (by simp)
  · split
    · exact failsOnly_error (by simp)
    · split
      · exact failsOnly_error (by simp)
      · exact failsOnly_ok _

theorem unaliased_checkAlike (src dst : Texture) : Unaliased (Memory.checkAlike src dst) := by
  unfold Memory.checkAlike
  split
  · exact failsOnly_error (by simp)
  · split
    · exact failsOnly_error (by simp)
    · exact failsOnly_ok _

namespace Memory

theorem copyTexture_aliasing_iff (m : Memory) (dst src : TextureId) :
    m.copyTexture dst src = .error .textureAliasing ↔ dst = src := by
  constructor
  · intro h
    by_contra hne
    rw [copyTexture_eq m hne] at h
    have hcopy := failsOnly_bind (unaliased_checkAlike (m.texture src) (m.texture dst)) fun _ =>
      unaliased_blit (m.texture src) (m.texture dst) (.covering (m.texture src).size)
        (.covering (m.texture dst).size)
    exact failsOnly_map _ hcopy _ h rfl
  · intro h
    rw [copyTexture, if_pos h]
    rfl

theorem copyRegion_aliasing_iff (m : Memory) (dst src : TextureId) (r : Region) :
    m.copyRegion dst src r = .error .textureAliasing ↔ dst = src := by
  constructor
  · intro h
    by_contra hne
    rw [copyRegion_eq m hne] at h
    exact failsOnly_map _ (unaliased_blit _ _ _ _) _ h rfl
  · intro h
    rw [copyRegion, if_pos h]
    rfl

end Memory

namespace Decision

/-- Of all that can be decided, only to refuse for aliasing ends in that. -/
theorem result_aliasing_iff {d : Decision} {m : Memory} :
    d.result m = .error .textureAliasing ↔ d = .refuse .textureAliasing := by
  constructor
  · intro h
    cases d with
    | refuse e =>
      cases h
      rfl
    | blit target image quad =>
      rw [result, Memory.blitToTexture_eq] at h
      exact absurd rfl (failsOnly_map _ (unaliased_blit _ _ _ _) _ h)
    | present view image quad =>
      rw [result, Memory.blitToView_eq] at h
      exact absurd rfl (failsOnly_map _ (unaliased_blit _ _ _ _) _ h)
    | luma target image color =>
      have hplane : Unaliased ((luma target image color).result m) :=
        failsOnly_bind (unaliased_convertToLuma _ _ _) fun _ => failsOnly_ok _
      exact absurd rfl (hplane _ h)
  · rintro rfl
    rfl

end Decision

theorem map_eq_error_iff {α β : Type} {f : α → β} {r : Except Error α} {e : Error} :
    r.map f = .error e ↔ r = .error e := by
  constructor
  · intro h
    cases r with
    | ok a => cases h
    | error e' =>
      cases h
      rfl
  · rintro rfl
    rfl

namespace Session

theorem copyTexture_aliasing_iff (s : Session) (dst src : TextureId) :
    (s.step (.copyTexture dst src)).answer = .error .textureAliasing ↔ dst = src := by
  change (s.commit [] _).unit.answer = _ ↔ _
  rw [answer_commit, map_eq_error_iff, Memory.copyTexture_aliasing_iff]

theorem copyRegion_aliasing_iff (s : Session) (dst src : TextureId) (r : Memory.Region) :
    (s.step (.copyRegion dst src r)).answer = .error .textureAliasing ↔ dst = src := by
  change (s.commit [] _).unit.answer = _ ↔ _
  rw [answer_commit, map_eq_error_iff, Memory.copyRegion_aliasing_iff]

/-- A draw is refused for aliasing exactly if it is a blit that has its rectangles, or a luma plane,
and its render target is its image. -/
theorem draw_aliasing_iff (s : Session) (mode : DrawMode) (start count : UInt32) :
    (s.step (.draw mode start count)).answer = .error .textureAliasing ↔
      ∃ image, s.context.params.image = some image ∧
        s.context.bindings.renderTarget = some image ∧
        (s.context.Runs .defaultDraw .defaultDraw ∧
            (∃ quad, s.context.quad mode start count = .ok quad) ∨
          s.context.Runs .nv12Y .nv12Y) := by
  rw [answer_draw, map_eq_error_iff, Decision.result_aliasing_iff, eq_comm,
    ← DrawContext.decides_iff]
  constructor
  · intro hrow
    cases hrow with
    | ontoItself hruns hquad himage htarget =>
      exact ⟨_, himage, htarget, .inl ⟨hruns, _, hquad⟩⟩
    | lumaOntoItself hruns htarget himage => exact ⟨_, himage, htarget, .inr hruns⟩
  · rintro ⟨image, himage, htarget, ⟨hruns, quad, hquad⟩ | hruns⟩
    · exact .ontoItself hruns hquad himage htarget
    · exact .lumaOntoItself hruns htarget himage

end Session

/-- **Shared handles cause no conflict.** Any calls, carried out one after the other from any state,
end, and so does any call after them; in the end nobody holds a texture, a stage surface or a view.

A copy is refused for aliasing exactly if both handles are of one texture. A draw is refused for
aliasing exactly if it is a blit that has its rectangles, or a luma plane, and its render target is
its image. -/
theorem sharing_never_conflicts (s : Session) (cs : List Call) :
    (∃ w, Workspace.performAll cs { session := s } =
        .ok ((s.run cs).1.map Outcome.answer, w) ∧ w.Idle ∧ w.session = s.after cs ∧
      ∀ c, ∃ w', (Workspace.perform c).run w = .ok (((s.after cs).step c).answer, w') ∧
        w'.Idle) ∧
    (∀ dst src, ((s.after cs).step (.copyTexture dst src)).answer = .error .textureAliasing ↔
      dst = src) ∧
    (∀ dst src r, ((s.after cs).step (.copyRegion dst src r)).answer = .error .textureAliasing ↔
      dst = src) ∧
    ∀ mode start count,
      ((s.after cs).step (.draw mode start count)).answer = .error .textureAliasing ↔
        ∃ image, (s.after cs).context.params.image = some image ∧
          (s.after cs).context.bindings.renderTarget = some image ∧
          ((s.after cs).context.Runs .defaultDraw .defaultDraw ∧
              (∃ quad, (s.after cs).context.quad mode start count = .ok quad) ∨
            (s.after cs).context.Runs .nv12Y .nv12Y) := by
  refine ⟨?_, (s.after cs).copyTexture_aliasing_iff, (s.after cs).copyRegion_aliasing_iff,
    (s.after cs).draw_aliasing_iff⟩
  have hidle : Workspace.Idle { session := s } := fun _ => rfl
  obtain ⟨w, hrun, hidle, hsession⟩ := Workspace.run_performAll hidle cs
  refine ⟨w, hrun, hidle, hsession, fun c => ?_⟩
  have hstep := Workspace.run_perform hidle c
  rw [hsession] at hstep
  exact ⟨_, hstep, hidle⟩

end BlitDevice
