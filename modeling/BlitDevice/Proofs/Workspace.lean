import BlitDevice.Device.Call
import BlitDevice.Proofs.BlitSafety
import BlitDevice.Proofs.Planes

/-!
# Surfaces that are taken hold of

Surfaces are shared by their handles. While a call is carried out, a surface is held by any number
of readers or by one writer, and by whom else would be a conflict.

* `Surface`, `Memory.load`, `Memory.store` — whatever pixels are in, whichever kind it is of.
* `Workspace` — a session while a call is carried out: what was told, and who holds what.
* `reading`, `writing` — a procedure during which a surface is held; it is let go however the
  procedure ends.
* `look`, `paintOn`, `replace` — what a holder can do.
* `transfer` — an engine run on one surface, with the texture another one has.
-/

set_option autoImplicit false

namespace BlitDevice

/-- Whatever pixels are in. -/
inductive Surface where
  | texture (id : TextureId)
  | stage (id : StageId)
  | output (id : ViewId)
  deriving DecidableEq, Repr

namespace Memory

/-- The pixels of a surface. -/
def load (m : Memory) : Surface → Texture
  | .texture id => m.texture id
  | .stage id => (m.stage id).texture
  | .output id => (m.view id).output

/-- Replaces the pixels of a surface. -/
def store (m : Memory) : Surface → Texture → Memory
  | .texture id, t => m.setTexture id t
  | .stage id, t => m.setStage id ⟨t⟩
  | .output id, t => m.setView id { m.view id with output := t }

/-- The memory after a surface was given the pixels that were come to, if there were any. -/
def storing (m : Memory) (s : Surface) (r : Except Error (Texture × Log)) :
    Except Error (Memory × Log) :=
  r.map fun a => (m.store s a.1, a.2)

/-- Writing an array's own entry back changes nothing. -/
theorem setIfInBounds_getD {α : Type} (a : Array α) (i : Nat) (d : α) :
    a.setIfInBounds i (a[i]?.getD d) = a := by
  apply Array.ext_getElem?
  intro j
  rw [Array.getElem?_setIfInBounds]
  split
  · rename_i h
    subst h
    by_cases hi : i < a.size <;> simp [hi]
  · rfl

/-- Putting back what was there changes nothing. -/
theorem store_load (m : Memory) (s : Surface) : m.store s (m.load s) = m := by
  cases s with
  | texture id =>
    exact congrArg (fun a => { m with textures := a }) (setIfInBounds_getD m.textures id.index _)
  | stage id =>
    exact congrArg (fun a => { m with stages := a }) (setIfInBounds_getD m.stages id.index _)
  | output id =>
    exact congrArg (fun a => { m with views := a }) (setIfInBounds_getD m.views id.index _)

end Memory

/-- Who holds a surface: so many readers, or a writer. -/
inductive Hold where
  | shared (readers : Nat)
  | exclusive
  deriving DecidableEq, Repr

namespace Hold

/-- One more reader. -/
def share : Hold → Checked Hold
  | shared n => .ok (shared (n + 1))
  | exclusive => .error .conflict

/-- A writer, where nobody else is. -/
def seize : Hold → Checked Hold
  | shared 0 => .ok exclusive
  | _ => .error .conflict

/-- One holder less. -/
def release : Hold → Hold
  | shared n => shared (n - 1)
  | exclusive => shared 0

end Hold

/-- A session while a call is carried out, what was told so far, and who holds what. -/
structure Workspace where
  session : Session
  log : Log := []
  held : Surface → Hold := fun _ => .shared 0

namespace Workspace

open InPlace

variable {α : Type}

instance : Telling Workspace where
  add r w := { w with log := w.log ++ [r] }

/-- Nobody holds anything. -/
def Idle (w : Workspace) : Prop := ∀ s, w.held s = .shared 0

/-- Notes who holds a surface. -/
def withHold (w : Workspace) (s : Surface) (h : Hold) : Workspace :=
  { w with held := Function.update w.held s h }

/-- Takes hold of a surface for as long as a procedure takes. -/
def during (take : Hold → Checked Hold) (s : Surface) (x : InPlace Workspace α) :
    InPlace Workspace α := ⟨fun w =>
  match take (w.held s) with
  | .error fault => .error fault
  | .ok h =>
    match x.run (w.withHold s h) with
    | .ok (r, w') => .ok (r, w'.withHold s (w'.held s).release)
    | .error fault => .error fault⟩

/-- Holds a surface together with other readers. -/
def reading (s : Surface) (x : InPlace Workspace α) : InPlace Workspace α := during Hold.share s x

/-- Holds a surface alone. -/
def writing (s : Surface) (x : InPlace Workspace α) : InPlace Workspace α := during Hold.seize s x

/-- The pixels of a surface that is held. -/
def look (s : Surface) : InPlace Workspace Texture := ⟨fun w =>
  if w.held s = .shared 0 then .error .conflict else .ok (.ok (w.session.memory.load s), w)⟩

/-- Runs a procedure on a surface that is held alone. Whatever it wrote stays, also if it fails. -/
def paintOn (s : Surface) (x : InPlace Canvas α) : InPlace Workspace α := ⟨fun w =>
  if w.held s = .exclusive then
    match x.run { texture := w.session.memory.load s, log := w.log } with
    | .ok (r, c) => .ok (r, { w with
        session := { w.session with memory := w.session.memory.store s c.texture }
        log := c.log })
    | .error fault => .error fault
  else .error .conflict⟩

/-- Runs an engine on one surface, with a texture it reads from. -/
def transfer (dst : Surface) (src : TextureId) (engine : Texture → InPlace Canvas Unit) :
    InPlace Workspace Unit :=
  reading (.texture src) (writing dst (do
    let source ← look (.texture src)
    paintOn dst (engine source)))

/-! ## What it comes to -/

/-- How a workspace ends up: with the memory that was come to, or as it was. -/
def endUp (w : Workspace) : Except Error (Memory × Log) → Except Error Unit × Workspace
  | .ok (memory, log) => (.ok (), { w with
      session := { w.session with memory }
      log := w.log ++ log })
  | .error e => (.error e, w)

theorem withHold_withHold (w : Workspace) (s : Surface) (h h' : Hold) :
    (w.withHold s h).withHold s h' = w.withHold s h' := by
  simp only [withHold, Function.update_idem]

theorem withHold_eq_self {w : Workspace} {s : Surface} {h : Hold} (hs : w.held s = h) :
    w.withHold s h = w := by
  simp only [withHold, ← hs, Function.update_eq_self]

theorem held_withHold_self (w : Workspace) (s : Surface) (h : Hold) :
    (w.withHold s h).held s = h := by
  simp only [withHold, Function.update_self]

theorem held_withHold_of_ne (w : Workspace) {s s' : Surface} (h : Hold) (hne : s' ≠ s) :
    (w.withHold s h).held s' = w.held s' := by
  simp only [withHold, Function.update_of_ne hne]

/-- Holding a surface and coming to a memory commute. -/
theorem withHold_endUp (w : Workspace) (s : Surface) (h : Hold)
    (r : Except Error (Memory × Log)) :
    (w.withHold s h).endUp r = ((w.endUp r).1, (w.endUp r).2.withHold s h) := by
  cases r <;> rfl

theorem held_endUp (w : Workspace) (r : Except Error (Memory × Log)) :
    (w.endUp r).2.held = w.held := by
  cases r <;> rfl

/-- A surface is let go as it was taken. -/
theorem run_during {take : Hold → Checked Hold} {s : Surface} {x : InPlace Workspace α}
    {w w' : Workspace} {h : Hold} {r : Except Error α} (htake : take (w.held s) = .ok h)
    (hrelease : h.release = w.held s) (hx : x.run (w.withHold s h) = .ok (r, w'.withHold s h))
    (hw' : w'.held s = w.held s) : (during take s x).run w = .ok (r, w') := by
  simp only [during, htake, hx, held_withHold_self, withHold_withHold, hrelease]
  rw [withHold_eq_self hw']

theorem run_reading {s : Surface} {x : InPlace Workspace α} {w w' : Workspace} {r : Except Error α}
    (hn : w.held s = .shared 0)
    (hx : x.run (w.withHold s (.shared 1)) = .ok (r, w'.withHold s (.shared 1)))
    (hw' : w'.held s = w.held s) : (reading s x).run w = .ok (r, w') :=
  run_during (by rw [hn, Hold.share]) (by rw [hn, Hold.release]) hx hw'

theorem run_writing {s : Surface} {x : InPlace Workspace α} {w w' : Workspace} {r : Except Error α}
    (hn : w.held s = .shared 0)
    (hx : x.run (w.withHold s .exclusive) = .ok (r, w'.withHold s .exclusive))
    (hw' : w'.held s = w.held s) : (writing s x).run w = .ok (r, w') :=
  run_during (by rw [hn, Hold.seize]) (by rw [hn, Hold.release]) hx hw'

theorem run_look {w : Workspace} {s : Surface} (h : w.held s ≠ .shared 0) :
    (look s).run w = .ok (.ok (w.session.memory.load s), w) := if_neg h

/-- An engine that leaves its canvas alone when it fails leaves the surface alone. -/
theorem run_paintOn {w : Workspace} {s : Surface} (h : w.held s = .exclusive)
    {x : InPlace Canvas Unit} {writes : List Nat} {r : Except Error (Texture × Log)}
    (hx : x.run { texture := w.session.memory.load s, log := w.log } =
      .ok (Canvas.endUp { texture := w.session.memory.load s, log := w.log } writes r)) :
    (paintOn s x).run w = .ok (w.endUp (w.session.memory.storing s r)) := by
  simp only [paintOn, if_pos h, hx]
  cases r with
  | ok a => rfl
  | error e => simp only [Canvas.endUp, Memory.store_load]; rfl

/-- **A transfer**, from a texture to another surface, with nobody else there. -/
theorem run_transfer {w : Workspace} (hidle : w.Idle) {dst : Surface} {src : TextureId}
    (hne : dst ≠ .texture src) {engine : Texture → InPlace Canvas Unit} {writes : List Nat}
    {r : Except Error (Texture × Log)}
    (hx : (engine (w.session.memory.texture src)).run
        { texture := w.session.memory.load dst, log := w.log } =
      .ok (Canvas.endUp { texture := w.session.memory.load dst, log := w.log } writes r)) :
    (transfer dst src engine).run w =
      .ok (w.endUp (w.session.memory.storing dst r)) := by
  have hdst : (w.withHold (.texture src) (.shared 1)).held dst = .shared 0 := by
    rw [held_withHold_of_ne _ _ hne]
    exact hidle dst
  have hsrc : ((w.withHold (.texture src) (.shared 1)).withHold dst .exclusive).held
      (.texture src) ≠ .shared 0 := by
    rw [held_withHold_of_ne _ _ hne.symm, held_withHold_self]
    decide
  obtain ⟨r', hr'⟩ : ∃ r', r' = w.session.memory.storing dst r := ⟨_, rfl⟩
  have hpaint : (paintOn dst (engine (w.session.memory.texture src))).run
        ((w.withHold (.texture src) (.shared 1)).withHold dst .exclusive) =
      .ok (((w.withHold (.texture src) (.shared 1)).withHold dst .exclusive).endUp r') := by
    rw [hr']
    exact run_paintOn (held_withHold_self _ _ _) hx
  rw [withHold_endUp, withHold_endUp] at hpaint
  rw [← hr']
  change _ = Except.ok ((w.endUp r').1, (w.endUp r').2)
  refine run_reading (hidle _) (run_writing hdst ?_ ?_) (by rw [held_endUp])
  · rw [run_bind, run_look hsrc, andThen_ok]
    exact hpaint
  · rw [held_withHold_of_ne _ _ hne, held_withHold_of_ne _ _ hne, held_endUp]

/-! ## Calls -/

variable {w : Workspace}

def context : InPlace Workspace DrawContext := ⟨fun w => .ok (.ok w.session.context, w)⟩

@[simp] theorem run_context (w : Workspace) : context.run w = .ok (.ok w.session.context, w) := rfl

/-- How a workspace stands after a call: with what the call told, and the session it left. -/
def settle {α : Type} (w : Workspace) (o : Outcome α) : Except Error α × Workspace :=
  (o.answer, { w with session := o.session, log := w.log ++ o.log })

theorem settle_map {α β : Type} (w : Workspace) (f : α → β) (o : Outcome α) :
    w.settle (o.map f) = ((w.settle o).1.map f, (w.settle o).2) := rfl

/-- Wrapping what a call gives back. -/
theorem run_wrap {α β : Type} {x : InPlace Workspace α} {o : Outcome α} (f : α → β)
    (h : x.run w = .ok (w.settle o)) :
    (do return f (← x) : InPlace Workspace β).run w = .ok (w.settle (o.map f)) := by
  rw [run_bind, h, settle_map]
  unfold settle
  cases o.answer <;> rfl

/-- A workspace that was told something more. -/
def hearing (w : Workspace) (told : Log) : Workspace := { w with log := w.log ++ told }

/-- An error is told after everything else. -/
theorem run_reported_hearing {x : InPlace Workspace Unit} {told : Log}
    {r : Except Error (Memory × Log)} (h : x.run w = .ok ((w.hearing told).endUp r)) :
    (reported x).run w = .ok (w.settle (w.session.commit told r)) := by
  cases r with
  | ok a =>
    rw [reported_ok h]
    simp only [hearing, settle, Session.commit, Session.done, List.append_assoc]
  | error e =>
    rw [reported_error h]
    simp only [hearing, settle, Session.commit, Session.fail, Telling.add, List.append_assoc]

theorem run_reported {x : InPlace Workspace Unit} {r : Except Error (Memory × Log)}
    (h : x.run w = .ok (w.endUp r)) :
    (reported x).run w = .ok (w.settle (w.session.commit [] r)) := by
  have h' : x.run w = .ok ((w.hearing []).endUp r) := by rwa [hearing, List.append_nil]
  exact run_reported_hearing h'

theorem settle_done {α : Type} (w : Workspace) (s : Session) (a : α) :
    w.settle (s.done a) = (.ok a, { w with session := s }) := by
  simp only [settle, Session.done, List.append_nil]

end Workspace

end BlitDevice
