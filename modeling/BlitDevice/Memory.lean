import BlitDevice.View

/-!
# Memory

* `Memory` — every surface there is: textures, stage surfaces and views.
* `TextureId`, `StageId`, `ViewId` — handles. Two handles are the same surface exactly when they
  are equal.
* `read_foldl` — one place after a list of writes: what was written there last, or what was there.
* Looking up and replacing one surface, and adding a new one: `Memory.texture_setTexture` and its
  like say that only the one replaced differs afterwards.
-/

set_option autoImplicit false

namespace BlitDevice

structure TextureId where
  index : Nat
  deriving DecidableEq, Repr

structure StageId where
  index : Nat
  deriving DecidableEq, Repr

structure ViewId where
  index : Nat
  deriving DecidableEq, Repr

/-- A surface that pixels are copied into for reading; it has one level. -/
structure StageSurface where
  texture : Texture
  deriving DecidableEq

def StageSurface.create (size : Size) (format : PixelFormat) : Except Error StageSurface :=
  match Texture.create { size, format } none with
  | .ok texture => .ok ⟨texture⟩
  | .error e => .error e

/-- Every surface there is. -/
structure Memory where
  textures : Array Texture := #[]
  stages : Array StageSurface := #[]
  views : Array View := #[]
  deriving DecidableEq

/-- Reading one place of an array after a write: the written value there, the old one elsewhere. -/
theorem getD_setIfInBounds {α : Type} (a : Array α) (i j : Nat) (v d : α) :
    (a.setIfInBounds i v)[j]?.getD d = if i = j ∧ i < a.size then v else a[j]?.getD d := by
  rw [Array.getElem?_setIfInBounds]
  by_cases h : i = j
  · subst h
    by_cases hi : i < a.size <;> simp [hi]
  · simp [h]

/-- Reading one place after a list of writes: the last value written there, or the one that was there
before. `P` is what the writes keep. -/
theorem read_foldl {S A V : Type} {P : S → Prop} {write : S → A → S} (read : S → V)
    {written? : A → Option V}
    (hwrite : ∀ s a, P s → P (write s a) ∧ read (write s a) = (written? a).getD (read s))
    (as : List A) : ∀ s, P s → P (as.foldl write s) ∧
      read (as.foldl write s) = (as.filterMap written?).getLast?.getD (read s) := by
  induction as with
  | nil => intro s hs; exact ⟨hs, rfl⟩
  | cons a as ih =>
    intro s hs
    obtain ⟨hP, hread⟩ := hwrite s a hs
    obtain ⟨hP', hread'⟩ := ih _ hP
    refine ⟨hP', ?_⟩
    rw [List.foldl_cons, hread', hread]
    cases ha : written? a with
    | none => rw [List.filterMap_cons_none ha, Option.getD_none]
    | some v =>
      rw [List.filterMap_cons_some ha, List.getLast?_cons, Option.getD_some, Option.getD_some]

namespace Memory

/-- The texture of a handle. A handle that was never given out stands for a texture without
pixels. -/
def texture (m : Memory) (id : TextureId) : Texture := m.textures[id.index]?.getD .empty

def stage (m : Memory) (id : StageId) : StageSurface := m.stages[id.index]?.getD ⟨.empty⟩

def view (m : Memory) (id : ViewId) : View := m.views[id.index]?.getD ⟨.empty, 0⟩

/-- Replaces the texture of a handle. -/
def setTexture (m : Memory) (id : TextureId) (t : Texture) : Memory :=
  { m with textures := m.textures.setIfInBounds id.index t }

def setStage (m : Memory) (id : StageId) (s : StageSurface) : Memory :=
  { m with stages := m.stages.setIfInBounds id.index s }

def setView (m : Memory) (id : ViewId) (v : View) : Memory :=
  { m with views := m.views.setIfInBounds id.index v }

/-- Adds a texture and gives out its handle. -/
def addTexture (m : Memory) (t : Texture) : Memory × TextureId :=
  ({ m with textures := m.textures.push t }, ⟨m.textures.size⟩)

def addStage (m : Memory) (s : StageSurface) : Memory × StageId :=
  ({ m with stages := m.stages.push s }, ⟨m.stages.size⟩)

def addView (m : Memory) (v : View) : Memory × ViewId :=
  ({ m with views := m.views.push v }, ⟨m.views.size⟩)

theorem texture_setTexture (m : Memory) (id other : TextureId) (t : Texture) :
    (m.setTexture id t).texture other =
      if id = other ∧ id.index < m.textures.size then t else m.texture other := by
  obtain ⟨i⟩ := id
  obtain ⟨j⟩ := other
  simp only [texture, setTexture, getD_setIfInBounds, TextureId.mk.injEq]

theorem stage_setStage (m : Memory) (id other : StageId) (s : StageSurface) :
    (m.setStage id s).stage other =
      if id = other ∧ id.index < m.stages.size then s else m.stage other := by
  obtain ⟨i⟩ := id
  obtain ⟨j⟩ := other
  simp only [stage, setStage, getD_setIfInBounds, StageId.mk.injEq]

theorem view_setView (m : Memory) (id other : ViewId) (v : View) :
    (m.setView id v).view other =
      if id = other ∧ id.index < m.views.size then v else m.view other := by
  obtain ⟨i⟩ := id
  obtain ⟨j⟩ := other
  simp only [view, setView, getD_setIfInBounds, ViewId.mk.injEq]

end Memory

end BlitDevice
