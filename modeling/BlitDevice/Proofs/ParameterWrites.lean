import Mathlib
import BlitDevice.Context

/-!
# Parameters that are written one after the other

* `ParamWrite` — a value for a parameter; `ParamWrite.slot?` — the slot it goes to, if it fits one.
* `ParamSlots.set_of_not_fits`, `ParamSlots.image_set`, `ParamSlots.colorVec_set_write` — what one
  write does to each slot, and what it tells.
* `ParamSlots.setAll` — writes one after the other; `ParamSlots.image_setAll`,
  `ParamSlots.colorVec_setAll` — each slot holds the last value that was written to it.
* `ParamSlots.setAll_congr` — only the order of writes to one slot matters.
* `slots_hold_last_fitting_write` — all of it, with what is told.
-/

set_option autoImplicit false

namespace BlitDevice

/-- A value for a parameter. -/
structure ParamWrite (T : Type) where
  param : ShaderParam
  value : ParamValue T

namespace ParamWrite

variable {T : Type}

/-- The slot a write goes to, if the value fits it. -/
def slot? : ParamWrite T → Option ParamKind
  | ⟨⟨.image, _⟩, .image _⟩ => some .image
  | ⟨⟨.colorVec slot, _⟩, .vec4 _⟩ => some (.colorVec slot)
  | _ => none

/-- The value fits the parameter, and there is a slot for it. -/
def fits (w : ParamWrite T) : Bool := w.slot?.isSome

/-- The image that is written, where one is bound or unbound. -/
def image? : ParamWrite T → Option (Option T)
  | ⟨⟨.image, _⟩, .image texture⟩ => some texture
  | _ => none

/-- The vector that is written to a colour slot. -/
def color? (slot : Fin 3) : ParamWrite T → Option (Vec4 Float32)
  | ⟨⟨.colorVec k, _⟩, .vec4 v⟩ => if k = slot then some v else none
  | _ => none

/-- What is told of a write that is passed over. -/
def warning (w : ParamWrite T) : Record :=
  if w.param.kind = .unknown then .unknownParam w.param.name else .unfitValue w.param.name

/-- A warning is one, and ends in the name of the parameter. -/
theorem level_warning (w : ParamWrite T) :
    w.warning.level = .warn ∧ ∃ front, w.warning.text = front ++ quoted w.param.name := by
  unfold warning
  split
  · exact ⟨rfl, _, rfl⟩
  · exact ⟨rfl, _, rfl⟩

/-- An image goes to the slot for images. -/
theorem image?_eq (w : ParamWrite T) : w.image? = if w.slot? = some .image then w.image? else none := by
  obtain ⟨⟨kind, name⟩, value⟩ := w
  cases kind <;> cases value <;> rfl

/-- A colour goes to its own slot. -/
theorem color?_eq (slot : Fin 3) (w : ParamWrite T) :
    w.color? slot = if w.slot? = some (.colorVec slot) then w.color? slot else none := by
  obtain ⟨⟨kind, name⟩, value⟩ := w
  cases kind with
  | colorVec k =>
    cases value with
    | image texture => rfl
    | vec4 v =>
      by_cases h : k = slot
      · subst h
        exact (if_pos rfl).symm
      · have hne : ParamWrite.slot? ⟨⟨.colorVec k, name⟩, (.vec4 v : ParamValue T)⟩ ≠
            some (.colorVec slot) := by
          intro heq
          cases heq
          exact h rfl
        rw [if_neg hne]
        exact if_neg h
  | image => cases value <;> rfl
  | unknown => cases value <;> rfl

end ParamWrite

namespace ParamSlots

variable {T : Type}

/-! ## One write -/

/-- **A write that does not fit is told and passed over.** -/
theorem set_of_not_fits (s : ParamSlots T) {w : ParamWrite T} (h : w.fits = false) :
    s.set w.param w.value = (s, [w.warning]) := by
  obtain ⟨⟨kind, name⟩, value⟩ := w
  cases kind <;> cases value <;> first | rfl | cases h

/-- A write that fits tells nothing. -/
theorem log_set_of_fits (s : ParamSlots T) {w : ParamWrite T} (h : w.fits = true) :
    (s.set w.param w.value).2 = [] := by
  obtain ⟨⟨kind, name⟩, value⟩ := w
  cases kind <;> cases value <;> first | rfl | cases h

theorem image_set (s : ParamSlots T) (w : ParamWrite T) :
    (s.set w.param w.value).1.image = w.image?.getD s.image := by
  obtain ⟨⟨kind, name⟩, value⟩ := w
  cases kind <;> cases value <;> rfl

theorem colorVec_set_write (s : ParamSlots T) (w : ParamWrite T) (slot : Fin 3) :
    (s.set w.param w.value).1.colorVec slot = (w.color? slot).getD (s.colorVec slot) := by
  obtain ⟨⟨kind, name⟩, value⟩ := w
  cases kind with
  | colorVec k =>
    cases value with
    | image texture => rfl
    | vec4 v =>
      refine (s.colorVec_set k v slot).trans ?_
      by_cases h : k = slot
      · rw [if_pos (congrArg Fin.val h), ParamWrite.color?, if_pos h, Option.getD_some]
      · rw [if_neg fun hval => h (Fin.ext hval), ParamWrite.color?, if_neg h, Option.getD_none]
  | image => cases value <;> rfl
  | unknown => cases value <;> rfl

/-- Past the last slot there is nothing but zero. -/
theorem colorVec_of_le (s : ParamSlots T) {index : Nat} (h : 3 ≤ index) :
    s.colorVec index = Vec4.zero := by
  rw [colorVec, Vector.getElem?_eq_none h, Option.getD_none]

theorem colorVec_initial (index : Nat) : (initial : ParamSlots T).colorVec index = Vec4.zero := by
  rw [colorVec, initial, Vector.getElem?_replicate]
  split <;> rfl

/-- Slots are what is read from them. -/
theorem eq_of_reads {s s' : ParamSlots T} (himage : s.image = s'.image)
    (hcolor : ∀ slot : Fin 3, s.colorVec slot = s'.colorVec slot) : s = s' := by
  obtain ⟨image, colors⟩ := s
  obtain ⟨image', colors'⟩ := s'
  cases himage
  refine congrArg (ParamSlots.mk image) (Vector.ext fun i hi => ?_)
  have h := hcolor ⟨i, hi⟩
  simpa only [colorVec, Vector.getElem?_eq_getElem hi, Option.getD_some] using h

/-! ## Writes one after the other -/

/-- Writes values one after the other: the slots at the end, and what was told. -/
def setAll (s : ParamSlots T) : List (ParamWrite T) → ParamSlots T × Log
  | [] => (s, [])
  | w :: ws =>
    let (next, log) := s.set w.param w.value
    let (final, more) := next.setAll ws
    (final, log ++ more)

/-- The slots are folded. -/
theorem setAll_fst (s : ParamSlots T) (ws : List (ParamWrite T)) :
    (s.setAll ws).1 = ws.foldl (fun s w => (s.set w.param w.value).1) s := by
  induction ws generalizing s with
  | nil => rfl
  | cons w ws ih => exact ih _

/-- **The image is the one written last**, or the one there was. -/
theorem image_setAll (s : ParamSlots T) (ws : List (ParamWrite T)) :
    (s.setAll ws).1.image = (ws.filterMap ParamWrite.image?).getLast?.getD s.image := by
  rw [setAll_fst]
  exact (read_foldl (P := fun _ => True) image
    (fun s w _ => ⟨trivial, s.image_set w⟩) ws s trivial).2

/-- **A colour vector is the one written last to its slot**, or the one there was. -/
theorem colorVec_setAll (s : ParamSlots T) (ws : List (ParamWrite T)) (slot : Fin 3) :
    (s.setAll ws).1.colorVec slot =
      (ws.filterMap (ParamWrite.color? slot)).getLast?.getD (s.colorVec slot) := by
  rw [setAll_fst]
  exact (read_foldl (P := fun _ => True) (fun s => s.colorVec slot)
    (fun s w _ => ⟨trivial, s.colorVec_set_write w slot⟩) ws s trivial).2

/-- **What is told are the warnings of the writes that do not fit**, one each. -/
theorem log_setAll (s : ParamSlots T) (ws : List (ParamWrite T)) :
    (s.setAll ws).2 = (ws.filter fun w => !w.fits).map ParamWrite.warning := by
  induction ws generalizing s with
  | nil => rfl
  | cons w ws ih =>
    have hcons : (s.setAll (w :: ws)).2 =
        (s.set w.param w.value).2 ++ ((s.set w.param w.value).1.setAll ws).2 := rfl
    rw [hcons, ih]
    cases h : w.fits with
    | true =>
      rw [log_set_of_fits s h, List.filter_cons_of_neg (by rw [h]; decide), List.nil_append]
    | false =>
      rw [set_of_not_fits s h, List.filter_cons_of_pos (by rw [h]; rfl), List.map_cons,
        List.singleton_append]

/-- What goes to a slot is found among the writes to that slot. -/
theorem filterMap_of_slot {V : Type} {written? : ParamWrite T → Option V} {kind : ParamKind}
    (h : ∀ w, written? w = if w.slot? = some kind then written? w else none)
    (ws : List (ParamWrite T)) :
    (ws.filter fun w => w.slot? = some kind).filterMap written? = ws.filterMap written? := by
  rw [List.filterMap_filter]
  refine List.filterMap_congr fun w _ => ?_
  simp only [decide_eq_true_eq]
  exact (h w).symm

/-- **Only the writes to one slot have an order.** -/
theorem setAll_congr (s : ParamSlots T) {ws ws' : List (ParamWrite T)}
    (h : ∀ kind, (ws.filter fun w => w.slot? = some kind) =
      ws'.filter fun w => w.slot? = some kind) : (s.setAll ws).1 = (s.setAll ws').1 := by
  -- Each slot is read off the writes to it, and those are the same.
  apply eq_of_reads
  · rw [image_setAll, image_setAll, ← filterMap_of_slot ParamWrite.image?_eq ws, h,
      filterMap_of_slot ParamWrite.image?_eq]
  · intro slot
    rw [colorVec_setAll, colorVec_setAll, ← filterMap_of_slot (ParamWrite.color?_eq slot) ws, h,
      filterMap_of_slot (ParamWrite.color?_eq slot)]

/-- Writes that do not fit can be left out. -/
theorem setAll_filter_fits (s : ParamSlots T) (ws : List (ParamWrite T)) :
    (s.setAll (ws.filter ParamWrite.fits)).1 = (s.setAll ws).1 := by
  refine setAll_congr s fun kind => ?_
  rw [List.filter_filter]
  refine List.filter_congr fun w _ => ?_
  by_cases hslot : w.slot? = some kind
  · simp [ParamWrite.fits, hslot]
  · simp [hslot]

/-- Writes to different slots can be swapped. -/
theorem setAll_swap (s : ParamSlots T) (front back : List (ParamWrite T)) {a b : ParamWrite T}
    (h : a.slot? ≠ b.slot?) :
    (s.setAll (front ++ a :: b :: back)).1 = (s.setAll (front ++ b :: a :: back)).1 := by
  refine setAll_congr s fun kind => ?_
  rw [List.filter_append, List.filter_append]
  congr 1
  by_cases ha : a.slot? = some kind
  · have hb : b.slot? ≠ some kind := fun hb => h (ha.trans hb.symm)
    simp [ha, hb]
  · simp [List.filter_cons, ha]

end ParamSlots

/-- **Slots hold the last write that fits.** After any writes, of any parameters and any values, the
image is the one that was bound or unbound last, each colour vector the one that was written last to
its slot, and past the slots there is nothing but zero; a slot that was not written is as it was,
and at first there is no image and every colour is zero. A write that does not fit changes no slot
and tells one warning, which ends in the parameter's name; one that fits tells nothing. So only the
writes to one slot have an order: those that do not fit can be left out, those to different slots
can be swapped, and whatever keeps the writes to each slot in order comes to the same. -/
theorem slots_hold_last_fitting_write {T : Type} (s : ParamSlots T) (ws : List (ParamWrite T)) :
    ((s.setAll ws).1.image = (ws.filterMap ParamWrite.image?).getLast?.getD s.image ∧
      (∀ slot : Fin 3, (s.setAll ws).1.colorVec slot =
        (ws.filterMap (ParamWrite.color? slot)).getLast?.getD (s.colorVec slot)) ∧
      (∀ index, 3 ≤ index → (s.setAll ws).1.colorVec index = Vec4.zero) ∧
      (ParamSlots.initial : ParamSlots T).image = none ∧
      ∀ index, (ParamSlots.initial : ParamSlots T).colorVec index = Vec4.zero) ∧
    ((∀ w : ParamWrite T, w.fits = true → (s.set w.param w.value).2 = []) ∧
      (∀ w : ParamWrite T, w.fits = false → s.set w.param w.value = (s, [w.warning])) ∧
      (∀ w : ParamWrite T, w.warning.level = .warn ∧
        ∃ front, w.warning.text = front ++ quoted w.param.name) ∧
      (s.setAll ws).2 = (ws.filter fun w => !w.fits).map ParamWrite.warning) ∧
    (s.setAll (ws.filter ParamWrite.fits)).1 = (s.setAll ws).1 ∧
    (∀ front a b back, ws = front ++ a :: b :: back → a.slot? ≠ b.slot? →
      (s.setAll (front ++ b :: a :: back)).1 = (s.setAll ws).1) ∧
    ∀ ws', (∀ kind, (ws'.filter fun w => w.slot? = some kind) =
      ws.filter fun w => w.slot? = some kind) → (s.setAll ws').1 = (s.setAll ws).1 := by
  refine ⟨⟨s.image_setAll ws, s.colorVec_setAll ws, ?_, rfl, ParamSlots.colorVec_initial⟩,
    ⟨fun w => s.log_set_of_fits, fun w => s.set_of_not_fits, ParamWrite.level_warning,
      s.log_setAll ws⟩, s.setAll_filter_fits ws, ?_, fun ws' => s.setAll_congr⟩
  · intro index h
    exact (s.setAll ws).1.colorVec_of_le h
  · rintro front a b back rfl h
    exact s.setAll_swap front back h.symm

/-- Two writes that fit, and three that do not: a name without a slot, and values of the other
type. -/
def mixedWrites : List (ParamWrite TextureId) :=
  [⟨.ofName "image", .image (some ⟨4⟩)⟩, ⟨.ofName "width", .vec4 ⟨1, 0, 0, 0⟩⟩,
    ⟨.ofName "color_vec1", .vec4 ⟨0, 1, 0, 0⟩⟩, ⟨.ofName "image", .vec4 Vec4.zero⟩,
    ⟨.ofName "color_vec1", .image none⟩]

/-- The two are held, the others are told, and where the third stands makes no difference. -/
theorem mixedWrites_held :
    (ParamSlots.initial.setAll mixedWrites).1.image = some ⟨4⟩ ∧
    (ParamSlots.initial.setAll mixedWrites).1.colorVec 1 = ⟨0, 1, 0, 0⟩ ∧
    (ParamSlots.initial.setAll mixedWrites).1.colorVec 3 = Vec4.zero ∧
    (ParamSlots.initial.setAll mixedWrites).2 =
      [.unknownParam "width", .unfitValue "image", .unfitValue "color_vec1"] ∧
    (ParamSlots.initial.setAll ([⟨.ofName "color_vec1", .vec4 ⟨0, 1, 0, 0⟩⟩,
      ⟨.ofName "image", .image (some ⟨4⟩)⟩] ++ mixedWrites.drop 3)).1 =
      (ParamSlots.initial.setAll mixedWrites).1 := by
  obtain ⟨⟨himage, hcolor, hpast, _⟩, ⟨_, _, _, htold⟩, _, _, hcongr⟩ :=
    slots_hold_last_fitting_write ParamSlots.initial mixedWrites
  refine ⟨himage.trans rfl, (hcolor 1).trans rfl, hpast 3 (by decide), htold.trans rfl, ?_⟩
  refine hcongr _ fun kind => ?_
  cases kind with
  | image => rfl
  | colorVec slot => fin_cases slot <;> rfl
  | unknown => rfl

end BlitDevice
