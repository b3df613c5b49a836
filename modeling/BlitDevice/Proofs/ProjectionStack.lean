import BlitDevice.Proofs.Runs
import BlitDevice.Proofs.Tasks

/-!
# Projections that are saved and brought back

* `Session.saved_step` — what a call does to the saved projections; all but two do nothing.
* `Session.step_pop_of_nil`, `Session.step_pop_of_cons` — bringing a projection back fails where none
  is saved, and changes nothing then; else it takes the one saved last.
* `Session.saved_step_above`, `Session.saved_run_above` — what was saved before stays below what is
  saved meanwhile, over one call and over a run that brings back no more than it saved.
* `Session.depth_step`, `Session.depth_run` — how many projections are saved, over one call and over
  any run.
* `projections_well_bracketed` — a run between saving and bringing back leaves no trace.
-/

set_option autoImplicit false

namespace BlitDevice

namespace Call

/-- The call saves the projection. -/
def isPush : Call → Bool
  | .pushProjection => true
  | _ => false

/-- The call brings a projection back. -/
def isPop : Call → Bool
  | .popProjection => true
  | _ => false

/-- At no point more is brought back than was saved, and in the end as much. -/
structure WellBracketed (cs : List Call) : Prop where
  pops_le : ∀ ds, ds <+: cs → ds.countP isPop ≤ ds.countP isPush
  pops_eq : cs.countP isPop = cs.countP isPush

/-- One more call counts once or not at all. -/
theorem countP_cons_toNat {α : Type} (p : α → Bool) (a : α) (as : List α) :
    (a :: as).countP p = as.countP p + (p a).toNat := by
  rw [List.countP_cons]
  cases p a <;> rfl

end Call

namespace Session

variable {s : Session} {c : Call} {cs : List Call} {front base : List (Mat4 Float32)}

def projection (s : Session) : Mat4 Float32 := s.context.transforms.projection

/-- The projections that were saved, the last one first. -/
def saved (s : Session) : List (Mat4 Float32) := s.context.transforms.saved

/-! ## One call -/

theorem context_of_paints (h : c.paints = true) : (s.step c).session.context = s.context := by
  rw [session_paints s h]
  rfl

theorem context_keepTexture (r : Except Error Texture) :
    (s.keepTexture r).session.context = s.context := by
  cases r <;> rfl

theorem context_createStage (size : Size) (format : PixelFormat) :
    (s.createStage size format).session.context = s.context := by
  unfold createStage
  split <;> rfl

theorem context_present : s.present.session.context = s.context := by
  unfold present
  split <;> rfl

theorem context_resize (size : Size) : (s.resize size).session.context = s.context := by
  unfold resize
  split
  · rfl
  · split <;> rfl

theorem context_outputSize : s.outputSize.session.context = s.context := by
  unfold outputSize
  split <;> rfl

theorem saved_of_context {s' : Session} (h : s'.context = s.context) : s'.saved = s.saved :=
  congrArg (fun c : DrawContext => c.transforms.saved) h

/-- Where nothing is saved, bringing back fails. -/
theorem step_pop_of_nil (h : s.saved = []) :
    s.step .popProjection = (s.fail .projectionStackEmpty).unit := by
  have hsaved : s.context.transforms.saved = [] := h
  show s.popProjection.unit = _
  unfold popProjection
  rw [hsaved]

/-- Else the projection that was saved last is brought back. -/
theorem step_pop_of_cons {m : Mat4 Float32} {rest : List (Mat4 Float32)} (h : s.saved = m :: rest) :
    s.step .popProjection =
      (s.transform fun t => { t with projection := m, saved := rest }).unit := by
  have hsaved : s.context.transforms.saved = m :: rest := h
  show s.popProjection.unit = _
  unfold popProjection
  rw [hsaved]

/-- And that is answered. -/
theorem answer_pop (h : s.saved ≠ []) : (s.step .popProjection).answer = .ok .done := by
  obtain ⟨m, rest, hsaved⟩ := List.exists_cons_of_ne_nil h
  rw [step_pop_of_cons hsaved]
  rfl

/-- **Only two calls touch what is saved**, whether they are answered or not. -/
theorem saved_step (s : Session) (c : Call) :
    (s.step c).session.saved =
      match c with
      | .pushProjection => s.projection :: s.saved
      | .popProjection => s.saved.tail
      | _ => s.saved := by
  cases c with
  | createTexture config data => exact saved_of_context (context_keepTexture _)
  | createTextureFromPng picture name => exact saved_of_context (context_keepTexture _)
  | createStage size format => exact saved_of_context (context_createStage size format)
  | popProjection =>
    cases h : s.saved with
    | nil =>
      rw [step_pop_of_nil h]
      exact h
    | cons m rest =>
      rw [step_pop_of_cons h]
      rfl
  | clear flags color depth stencil => exact saved_of_context (context_of_paints rfl)
  | copyTexture dst src => exact saved_of_context (context_of_paints rfl)
  | copyRegion dst src region => exact saved_of_context (context_of_paints rfl)
  | stageTexture dst src => exact saved_of_context (context_of_paints rfl)
  | draw mode start count => exact saved_of_context (context_of_paints rfl)
  | present => exact saved_of_context context_present
  | resize size => exact saved_of_context (context_resize size)
  | outputSize => exact saved_of_context context_outputSize
  | _ => rfl

/-- **What was saved before stays below**: a call changes what is saved above it by one projection at
most, and brings one back only from there. -/
theorem saved_step_above (h : s.saved = front ++ base) (hc : c.isPop = true → front ≠ []) :
    ∃ front', (s.step c).session.saved = front' ++ base ∧
      front'.length + c.isPop.toNat = front.length + c.isPush.toNat := by
  have hstep := s.saved_step c
  cases c with
  | pushProjection => exact ⟨s.projection :: front, hstep.trans (congrArg _ h), rfl⟩
  | popProjection =>
    cases front with
    | nil => exact absurd rfl (hc rfl)
    | cons m front =>
      rw [h] at hstep
      exact ⟨front, hstep, rfl⟩
  | _ => exact ⟨front, hstep.trans h, rfl⟩

/-- **A call changes the number of saved projections** only if it saves one, or brings one back and is
answered. -/
theorem depth_step (s : Session) (c : Call) :
    (s.step c).session.saved.length + (c.isPop && (s.step c).answer.isOk).toNat =
      s.saved.length + c.isPush.toNat := by
  have hstep := s.saved_step c
  cases c with
  | pushProjection =>
    rw [hstep]
    rfl
  | popProjection =>
    cases h : s.saved with
    | nil =>
      rw [hstep, step_pop_of_nil h, h]
      rfl
    | cons m rest =>
      rw [hstep, step_pop_of_cons h, h]
      rfl
  | _ =>
    rw [hstep]
    rfl

/-! ## Runs -/

/-- How often a projection was brought back in a run. -/
def popped (s : Session) (cs : List Call) : Nat :=
  (cs.zip (s.run cs).1).countP fun (c, o) => c.isPop && o.answer.isOk

theorem popped_cons (s : Session) (c : Call) (cs : List Call) :
    s.popped (c :: cs) =
      (s.step c).session.popped cs + (c.isPop && (s.step c).answer.isOk).toNat := by
  have hzip : (c :: cs).zip (s.run (c :: cs)).1 =
      (c, s.step c) :: cs.zip ((s.step c).session.run cs).1 := rfl
  rw [popped, hzip, Call.countP_cons_toNat, popped]

/-- **What was saved before a run stays below**, if the run brings back no more than there is above
it. -/
theorem saved_run_above (h : s.saved = front ++ base)
    (hcs : ∀ ds, ds <+: cs → ds.countP Call.isPop ≤ front.length + ds.countP Call.isPush) :
    ∃ front', (s.after cs).saved = front' ++ base ∧
      front'.length + cs.countP Call.isPop = front.length + cs.countP Call.isPush := by
  induction cs generalizing s front with
  | nil => exact ⟨front, h, rfl⟩
  | cons c cs ih =>
    -- The run of `c` alone says that `c` finds something above `base` if it takes something away.
    have hfirst : c.isPop = true → front ≠ [] := by
      rintro hpop rfl
      have hle := hcs [c] ⟨cs, rfl⟩
      cases c with
      | popProjection => exact absurd hle (by decide)
      | _ => cases hpop
    obtain ⟨front', hfront', hlength⟩ := saved_step_above h hfirst
    have hrest : ∀ ds, ds <+: cs →
        ds.countP Call.isPop ≤ front'.length + ds.countP Call.isPush := by
      intro ds hds
      have hle := hcs (c :: ds) ((List.prefix_cons_inj c).mpr hds)
      rw [Call.countP_cons_toNat, Call.countP_cons_toNat] at hle
      omega
    obtain ⟨last, hlast, hlength'⟩ := ih hfront' hrest
    refine ⟨last, hlast, ?_⟩
    rw [Call.countP_cons_toNat, Call.countP_cons_toNat]
    omega

/-- **The number of saved projections** grows with each that is saved and shrinks with each that is
brought back. -/
theorem depth_run (s : Session) (cs : List Call) :
    (s.after cs).saved.length + s.popped cs = s.saved.length + cs.countP Call.isPush := by
  induction cs generalizing s with
  | nil => rfl
  | cons c cs ih =>
    have hstep := s.depth_step c
    have hrest := ih (s.step c).session
    rw [popped_cons, after_cons, Call.countP_cons_toNat]
    omega

/-- What a run that is well bracketed leaves of what was saved: all of it. -/
theorem saved_bracketed (s : Session) (hcs : Call.WellBracketed cs) :
    (s.after (.pushProjection :: cs)).saved = s.projection :: s.saved := by
  have hpush : (s.step .pushProjection).session.saved = [] ++ s.projection :: s.saved :=
    s.saved_step .pushProjection
  obtain ⟨front', hsaved, hlength⟩ := saved_run_above hpush fun ds hds => by
    have hle := hcs.pops_le ds hds
    omega
  have hnil : front' = [] := by
    have heq := hcs.pops_eq
    exact List.eq_nil_of_length_eq_zero (by rw [List.length_nil] at hlength; omega)
  rw [after_cons, hsaved, hnil, List.nil_append]

/-- In a run that is well bracketed, every projection that is to be brought back is. -/
theorem answer_pop_bracketed (s : Session) (hcs : Call.WellBracketed cs) {before later : List Call}
    (h : cs = before ++ .popProjection :: later) :
    ((s.after (.pushProjection :: before)).step .popProjection).answer = .ok .done := by
  have hpush : (s.step .pushProjection).session.saved = [] ++ s.projection :: s.saved :=
    s.saved_step .pushProjection
  have hbefore : ∀ ds, ds <+: before →
      ds.countP Call.isPop ≤ ([] : List (Mat4 Float32)).length + ds.countP Call.isPush := by
    intro ds hds
    have hle := hcs.pops_le ds (hds.trans ⟨_, h.symm⟩)
    rw [List.length_nil]
    omega
  obtain ⟨front', hsaved, _⟩ := saved_run_above hpush hbefore
  apply answer_pop
  rw [after_cons, hsaved]
  exact List.append_ne_nil_of_right_ne_nil _ (List.cons_ne_nil _ _)

end Session

/-- **Saving and bringing back are well bracketed.** Whatever is called between saving the projection
and bringing it back, answered or refused: if at no point of that run more is brought back than was
saved in it, and in the end as much, then all that is to be brought back is, the projection that was
saved first comes back last, and with it all that was saved before, as it was. From a new device on,
as many projections are saved as were saved by a call and not brought back since; bringing one back
fails exactly where there is none, tells so, and changes nothing. -/
theorem projections_well_bracketed (s : Session) (cs : List Call) (config : DeviceConfig)
    (memory : Memory) (ds : List Call) :
    (Call.WellBracketed cs → (s.step .pushProjection).answer = .ok .done ∧
      (∀ before later, cs = before ++ .popProjection :: later →
        ((s.after (.pushProjection :: before)).step .popProjection).answer = .ok .done) ∧
      ((s.after (.pushProjection :: cs)).step .popProjection).answer = .ok .done ∧
      (s.after (.pushProjection :: cs ++ [.popProjection])).projection = s.projection ∧
      (s.after (.pushProjection :: cs ++ [.popProjection])).saved = s.saved) ∧
    let new := (Session.create config memory).1
    let depth := ds.countP Call.isPush - new.popped ds
    new.popped ds ≤ ds.countP Call.isPush ∧ (new.after ds).saved.length = depth ∧
      ((new.after ds).step .popProjection).answer =
        (if depth = 0 then .error .projectionStackEmpty else .ok .done) ∧
      (depth = 0 → ((new.after ds).step .popProjection).session = new.after ds ∧
        ((new.after ds).step .popProjection).log = [.failed .projectionStackEmpty]) := by
  constructor
  · intro hcs
    have hsaved := s.saved_bracketed hcs
    have hpop := Session.step_pop_of_cons hsaved
    refine ⟨rfl, fun before later => s.answer_pop_bracketed hcs,
      Session.answer_pop (by rw [hsaved]; exact List.cons_ne_nil _ _), ?_, ?_⟩
    · rw [Session.after_append, Session.after_cons, hpop]
      rfl
    · rw [Session.after_append, Session.after_cons, hpop]
      rfl
  · intro new depth
    have hrun : (new.after ds).saved.length + new.popped ds = 0 + ds.countP Call.isPush :=
      new.depth_run ds
    have hdepth : (new.after ds).saved.length = depth := by omega
    refine ⟨by omega, hdepth, ?_⟩
    cases h : (new.after ds).saved with
    | nil =>
      rw [h, List.length_nil] at hdepth
      rw [Session.step_pop_of_nil h, if_pos hdepth.symm]
      exact ⟨rfl, fun _ => ⟨rfl, rfl⟩⟩
    | cons m rest =>
      have hpos : depth ≠ 0 := by
        rw [← hdepth, h]
        exact Nat.succ_ne_zero _
      rw [Session.step_pop_of_cons h, if_neg hpos]
      exact ⟨rfl, fun h0 => absurd h0 hpos⟩

/-- Other projections, one of them saved and brought back, and a draw that fails. -/
def bracketedRun : List Call :=
  [.ortho 0 3 0 1 (-100) 100, .pushProjection, .draw .triStrip 0 2,
    .frustum (-1) 1 (-1) 1 1 10, .popProjection]

/-- It leaves no trace. On a new device, what was saved once cannot be brought back twice. -/
theorem bracketedRun_leaves_no_trace :
    Call.WellBracketed bracketedRun ∧
    (twoSizes.after (.pushProjection :: bracketedRun ++ [.popProjection])).projection =
      Mat4.identity ∧
    (twoSizes.after (.pushProjection :: bracketedRun ++ [.popProjection])).saved = [] ∧
    (((Session.create {}).1.after [.pushProjection, .popProjection]).step
      .popProjection).answer = .error .projectionStackEmpty := by
  have hinits : ∀ ds ∈ bracketedRun.inits, ds.countP Call.isPop ≤ ds.countP Call.isPush := by decide
  have hbracketed : Call.WellBracketed bracketedRun :=
    ⟨fun ds hds => hinits ds ((List.mem_inits _ _).mpr hds), rfl⟩
  obtain ⟨hrun, hnew⟩ := projections_well_bracketed twoSizes bracketedRun {} {}
    [.pushProjection, .popProjection]
  obtain ⟨_, _, _, hprojection, hsaved⟩ := hrun hbracketed
  exact ⟨hbracketed, hprojection, hsaved, hnew.2.2.1.trans (if_pos rfl)⟩

end BlitDevice
