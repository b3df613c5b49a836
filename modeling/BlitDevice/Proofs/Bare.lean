import BlitDevice.Proofs.BufferSizes
import BlitDevice.Proofs.Tasks

/-!
# Surfaces without what is only recorded about them

A texture has a usage and a name, and nothing that works on pixels reads them.

* `Texture.bare`, `Memory.bare` — a texture, and every surface there is, without usage and name.
  `Texture.bare_eq_iff` says what is left: size, format, levels and bytes.
* `blit_bare`, `convertToLuma_bare`, `Texture.fill_bare`, `Texture.create_bare` — whatever makes a
  texture makes the same one without them.
* `Memory.load_bare`, `Memory.store_bare` and their like — so does memory.
* `Engine.result_bare`, `Task.result_bare` — and so do engines and tasks.
-/

set_option autoImplicit false

namespace BlitDevice

/-! ## Textures -/

/-- What a texture is created from, without usage and name. -/
def TextureConfig.bare (config : TextureConfig) : TextureConfig :=
  { config with usage := .static, name := "" }

namespace Texture

variable {t u : Texture}

/-- The texture without usage and name. -/
def bare (t : Texture) : Texture := { t with usage := .static, name := "" }

@[simp] theorem size_bare (t : Texture) : t.bare.size = t.size := rfl

@[simp] theorem format_bare (t : Texture) : t.bare.format = t.format := rfl

@[simp] theorem bytes_bare (t : Texture) : t.bare.bytes = t.bytes := rfl

/-- What is left is all but usage and name. -/
theorem bare_eq_iff : t.bare = u.bare ↔
    t.size = u.size ∧ t.format = u.format ∧ t.levels = u.levels ∧ t.bytes = u.bytes := by
  constructor
  · intro h
    have hsize := congrArg size h
    have hformat := congrArg format h
    have hlevels := congrArg levels h
    have hbytes := congrArg bytes h
    exact ⟨hsize, hformat, hlevels, hbytes⟩
  · rintro ⟨hsize, hformat, hlevels, hbytes⟩
    simp only [bare, hsize, hlevels, hformat, hbytes]

theorem fill_bare (t : Texture) (px : List UInt8) : t.bare.fill px = (t.fill px).bare := by
  unfold fill
  by_cases h : px.length = t.bytesPerPixel
  · rw [if_pos h]
    exact if_pos h
  · rw [if_neg h]
    exact if_neg h

end Texture

/-- A blit of bare textures. -/
theorem blit_bare (src dst : Texture) (srcRect dstRect : Rect) :
    blit src.bare dst.bare srcRect dstRect =
      (blit src dst srcRect dstRect).map fun a => (a.1.bare, a.2) := by
  unfold blit
  by_cases h : IsWholeCopy src dst srcRect dstRect
  · rw [dif_pos h]
    exact dif_pos h
  · rw [dif_neg h]
    refine (dif_neg h).trans ?_
    rw [blitByPixel, blitByPixel, Texture.format_bare, Texture.format_bare]
    cases PixelOp.between? src.format dst.format with
    | none => rfl
    | some op =>
      by_cases hn : NothingToBlit src dstRect
      · dsimp only
        rw [if_pos hn]
        exact if_pos hn
      · dsimp only
        rw [if_neg hn]
        exact if_neg hn

/-- A luma plane from a bare texture onto another. -/
theorem convertToLuma_bare (src dst : Texture) (color : Vec4 Float32) :
    convertToLuma src.bare dst.bare color = (convertToLuma src dst color).map Texture.bare := by
  unfold convertToLuma
  by_cases hsize : src.size ≠ dst.size
  · rw [if_pos hsize]
    exact if_pos hsize
  · rw [if_neg hsize]
    refine (if_neg hsize).trans ?_
    by_cases hluma : (!dst.format.isLuma) = true
    · rw [if_pos hluma]
      exact if_pos hluma
    · rw [if_neg hluma]
      refine (if_neg hluma).trans ?_
      rw [Texture.format_bare, Texture.format_bare]
      cases src.format.rgbOffsets? <;> rfl

/-! ## Memory -/

/-- The stage surface without its texture's usage and name. -/
def StageSurface.bare (a : StageSurface) : StageSurface := ⟨a.texture.bare⟩

/-- The view without its output's usage and name. -/
def View.bare (v : View) : View := { v with output := v.output.bare }

namespace Memory

variable {m : Memory} {f : Surface}

/-- Every surface without usage and name. -/
def bare (m : Memory) : Memory where
  textures := m.textures.map Texture.bare
  stages := m.stages.map StageSurface.bare
  views := m.views.map View.bare

@[simp] theorem texture_bare (m : Memory) (id : TextureId) :
    m.bare.texture id = (m.texture id).bare := by
  simp only [texture, bare, Array.getElem?_map]
  cases m.textures[id.index]? <;> rfl

@[simp] theorem stage_bare (m : Memory) (id : StageId) : m.bare.stage id = (m.stage id).bare := by
  simp only [stage, bare, Array.getElem?_map]
  cases m.stages[id.index]? <;> rfl

@[simp] theorem view_bare (m : Memory) (id : ViewId) : m.bare.view id = (m.view id).bare := by
  simp only [view, bare, Array.getElem?_map]
  cases m.views[id.index]? <;> rfl

theorem load_bare (m : Memory) (f : Surface) : m.bare.load f = (m.load f).bare := by
  cases f with
  | texture id => exact m.texture_bare id
  | stage id => exact congrArg StageSurface.texture (m.stage_bare id)
  | output id => exact congrArg View.output (m.view_bare id)

theorem setView_bare (m : Memory) (id : ViewId) (v : View) :
    m.bare.setView id v.bare = (m.setView id v).bare := by
  simp only [setView, bare, Array.map_setIfInBounds]

theorem store_bare (m : Memory) (f : Surface) (t : Texture) :
    m.bare.store f t.bare = (m.store f t).bare := by
  cases f with
  | texture id => simp only [store, setTexture, bare, Array.map_setIfInBounds]
  | stage id => simp only [store, setStage, bare, Array.map_setIfInBounds, StageSurface.bare]
  | output id =>
    rw [store, view_bare]
    exact m.setView_bare id { m.view id with output := t }

end Memory

/-! ## Engines and tasks -/

theorem Engine.result_bare (e : Engine) (m : Memory) (t : Texture) :
    e.result m.bare t.bare = (e.result m t).map fun a => (a.1.bare, a.2) := by
  cases e with
  | fill color =>
    simp only [result, Texture.format_bare, Texture.fill_bare]
    cases Workspace.clearPixel t.format color <;> rfl
  | copyAll src =>
    simp only [result, Memory.texture_bare, Texture.size_bare, blit_bare]
    have halike : Memory.checkAlike (m.texture src).bare t.bare =
        Memory.checkAlike (m.texture src) t := rfl
    rw [halike]
    cases Memory.checkAlike (m.texture src) t <;> rfl
  | blit src srcRect dstRect =>
    simp only [result, Memory.texture_bare, Texture.size_bare, blit_bare]
  | luma src color =>
    simp only [result, Memory.texture_bare, convertToLuma_bare]
    cases convertToLuma (m.texture src) t color <;> rfl

theorem Task.result_bare (t : Task) (m : Memory) :
    t.result m.bare = (t.result m).map fun a => (a.1.bare, a.2) := by
  cases t with
  | idle => rfl
  | refuse e => rfl
  | paint dst e apart =>
    rw [result, result, Memory.load_bare, Engine.result_bare, Memory.storing, Memory.storing]
    cases e.result m (m.load dst) with
    | error err => rfl
    | ok a => exact congrArg (fun m' => Except.ok (m', a.2)) (m.store_bare dst a.1)

end BlitDevice
