import BlitDevice.Proofs.Tasks

/-!
# Copies of all of a texture

All of a texture can be copied onto another one, copied as a region, or staged. The three come to
the same.

* `checkAlike_eq_ok`, `checkAlike_of_size`, `checkAlike_of_format` — what is checked first.
* `Engine.copyAll_alike`, `Engine.copyAll_refused` — what copying all of a texture leaves, and when
  it is refused.
* `Session.step_copyAll_alike`, `Session.step_copyAll_refused` — the calls that do it.
* `Session.step_copyRegion_all` — the region of all zeros is all of a texture.
* `copies_agree` — the three calls, for every size and every format.
-/

set_option autoImplicit false

namespace BlitDevice

variable {source target : Texture}

/-! ## One surface -/

namespace Memory

theorem checkAlike_eq_ok (hsize : source.size = target.size)
    (hformat : source.format = target.format) : checkAlike source target = .ok () := by
  rw [checkAlike, if_neg (not_not.mpr hsize), if_neg (not_not.mpr hformat)]

theorem checkAlike_of_size (hsize : source.size ≠ target.size) :
    checkAlike source target = .error (.sizeMismatch source.size target.size) :=
  if_pos hsize

theorem checkAlike_of_format (hsize : source.size = target.size)
    (hformat : source.format ≠ target.format) :
    checkAlike source target = .error (.unsupportedFormatPair source.format target.format) := by
  rw [checkAlike, if_neg (not_not.mpr hsize), if_pos hformat]

end Memory

/-- The last texture is the first with the pixels of the source in level 0. -/
structure Texture.Takes (target source t : Texture) : Prop where
  repainted : target.Repainted t
  level0_eq : t.level0 = source.level0

/-- All of a texture goes onto one of its size and format without a word, whatever the format. -/
theorem blit_alike (hsize : source.size = target.size) (hformat : source.format = target.format) :
    ∃ t, blit source target (.covering source.size) (.covering target.size) = .ok (t, []) ∧
      target.Takes source t := by
  have hw : IsWholeCopy source target (.covering source.size) (.covering target.size) :=
    ⟨hformat, hsize, rfl, rfl⟩
  refine ⟨target.withLevel0 source.level0 hw.size_level0, dif_pos hw, ?_⟩
  exact ⟨Texture.repainted_withLevel0 _, Texture.level0_withLevel0⟩

namespace Engine

variable {m : Memory} {src : TextureId}

theorem copyAll_alike (hsize : (m.texture src).size = target.size)
    (hformat : (m.texture src).format = target.format) :
    ∃ t, (copyAll src).result m target = .ok (t, []) ∧ target.Takes (m.texture src) t := by
  obtain ⟨t, hblit, ht⟩ := blit_alike hsize hformat
  refine ⟨t, ?_, ht⟩
  rw [result, Memory.checkAlike_eq_ok hsize hformat, ok_bind, hblit]

/-- What is checked first is told, and nothing else is looked at. -/
theorem copyAll_refused {e : Error} (h : Memory.checkAlike (m.texture src) target = .error e) :
    (copyAll src).result m target = .error e := by
  rw [result, h]
  rfl

end Engine

/-! ## Calls -/

/-- The region of all zeros is all of a texture, where source and destination have one size. -/
theorem Memory.Region.rects_all (s : Size) :
    (⟨0, 0, 0, 0, 0, 0⟩ : Region).srcRect s = .covering s ∧
      (⟨0, 0, 0, 0, 0, 0⟩ : Region).dstRect s = .covering s :=
  ⟨rfl, rfl⟩

namespace Session

variable {s : Session} {c : Call} {f : Surface} {src : TextureId}

/-- The outcome of a call that copies all of a texture to a surface. -/
theorem step_copyAll (hpaints : c.paints = true) (htells : s.context.tells c = [])
    (htask : s.context.task c = .set f (.copyAll src)) (hf : f ≠ .texture src) :
    s.step c = (s.commit [] (s.memory.storing f
      ((Engine.copyAll src).result s.memory (s.memory.load f)))).unit := by
  have hapart : (Engine.copyAll src).source ≠ some f := fun h => hf (Option.some.inj h).symm
  rw [step_paints s hpaints, htells, htask, Task.result_set hapart]

/-- **A surface takes level 0 of a texture like it**, and nothing is told. -/
theorem step_copyAll_alike (hpaints : c.paints = true) (htells : s.context.tells c = [])
    (htask : s.context.task c = .set f (.copyAll src)) (hf : f ≠ .texture src)
    (hsize : (s.memory.texture src).size = (s.memory.load f).size)
    (hformat : (s.memory.texture src).format = (s.memory.load f).format) :
    ∃ t, s.step c = ⟨.ok .done, [], { s with memory := s.memory.store f t }⟩ ∧
      (s.memory.load f).Takes (s.memory.texture src) t := by
  obtain ⟨t, hresult, ht⟩ := Engine.copyAll_alike hsize hformat
  refine ⟨t, ?_, ht⟩
  rw [step_copyAll hpaints htells htask hf, hresult]
  rfl

/-- **What is unlike is refused**: the error is told and nothing is written. -/
theorem step_copyAll_refused (hpaints : c.paints = true) (htells : s.context.tells c = [])
    (htask : s.context.task c = .set f (.copyAll src)) (hf : f ≠ .texture src) {e : Error}
    (h : Memory.checkAlike (s.memory.texture src) (s.memory.load f) = .error e) :
    s.step c = ⟨.error e, [.failed e], s⟩ := by
  rw [step_copyAll hpaints htells htask hf, Engine.copyAll_refused h]
  rfl

/-- Copied as a region, all of a texture is copied as it is as a whole. -/
theorem step_copyRegion_all {dst : TextureId} (hne : dst ≠ src)
    (hsize : (s.memory.texture src).size = (s.memory.texture dst).size)
    (hformat : (s.memory.texture src).format = (s.memory.texture dst).format) :
    s.step (.copyRegion dst src ⟨0, 0, 0, 0, 0, 0⟩) = s.step (.copyTexture dst src) := by
  obtain ⟨hsrcRect, hdstRect⟩ := Memory.Region.rects_all (s.memory.texture src).size
  have hwhole : s.memory.copyRegion dst src ⟨0, 0, 0, 0, 0, 0⟩ = s.memory.copyTexture dst src := by
    rw [Memory.copyRegion_eq _ hne, Memory.copyTexture_eq _ hne,
      Memory.checkAlike_eq_ok hsize hformat, ok_bind, hsrcRect, hdstRect, hsize]
  change (s.commit [] (s.memory.copyRegion dst src ⟨0, 0, 0, 0, 0, 0⟩)).unit =
    (s.commit [] (s.memory.copyTexture dst src)).unit
  rw [hwhole]

end Session

/-- **The three copies agree.** Of textures of one size and format, whatever these are and however
many levels either has, a copy, a copy of the region of all zeros and staging all answer without a
word; the two copies leave the same, and level 0 of what was written is the source's. Where sizes
differ, or sizes agree and formats differ, the copy and staging say so and write nothing. -/
theorem copies_agree (s : Session) {dst src : TextureId} {stage : StageId} (hne : dst ≠ src)
    (hdst : s.memory.Has (.texture dst)) (hstage : s.memory.Has (.stage stage))
    {source target kept : Texture} (hsource : s.memory.texture src = source)
    (htarget : s.memory.texture dst = target) (hkept : (s.memory.stage stage).texture = kept) :
    (source.size = target.size → source.format = target.format → ∃ t,
      t.level0 = source.level0 ∧ t.config = target.config ∧
      (∀ k, target.level0Size ≤ k → t.bytes[k]? = target.bytes[k]?) ∧
      (s.memory.setTexture dst t).texture dst = t ∧
      s.step (.copyTexture dst src) =
        ⟨.ok .done, [], { s with memory := s.memory.setTexture dst t }⟩ ∧
      s.step (.copyRegion dst src ⟨0, 0, 0, 0, 0, 0⟩) =
        ⟨.ok .done, [], { s with memory := s.memory.setTexture dst t }⟩) ∧
    (source.size = kept.size → source.format = kept.format → ∃ t,
      t.level0 = source.level0 ∧ t.config = kept.config ∧
      ((s.memory.setStage stage ⟨t⟩).stage stage).texture = t ∧
      s.step (.stageTexture stage src) =
        ⟨.ok .done, [], { s with memory := s.memory.setStage stage ⟨t⟩ }⟩) ∧
    (source.size ≠ target.size → s.step (.copyTexture dst src) =
      ⟨.error (.sizeMismatch source.size target.size),
        [.failed (.sizeMismatch source.size target.size)], s⟩) ∧
    (source.size = target.size → source.format ≠ target.format →
      s.step (.copyTexture dst src) =
        ⟨.error (.unsupportedFormatPair source.format target.format),
          [.failed (.unsupportedFormatPair source.format target.format)], s⟩) ∧
    (source.size ≠ kept.size → s.step (.stageTexture stage src) =
      ⟨.error (.sizeMismatch source.size kept.size),
        [.failed (.sizeMismatch source.size kept.size)], s⟩) ∧
    (source.size = kept.size → source.format ≠ kept.format →
      s.step (.stageTexture stage src) =
        ⟨.error (.unsupportedFormatPair source.format kept.format),
          [.failed (.unsupportedFormatPair source.format kept.format)], s⟩) ∧
    ∀ c ∈ [Call.copyTexture dst src, .copyRegion dst src ⟨0, 0, 0, 0, 0, 0⟩,
        .stageTexture stage src],
      (Workspace.perform c).run { session := s } =
        .ok ((s.step c).answer, { session := (s.step c).session, log := (s.step c).log }) := by
  subst hsource htarget hkept
  have hf : Surface.texture dst ≠ .texture src := fun h => hne (Surface.texture.inj h)
  have hg : Surface.stage stage ≠ .texture src := nofun
  refine ⟨?_, ?_, ?_, ?_, ?_, ?_, ?_⟩
  · intro hsize hformat
    obtain ⟨t, hstep, ht⟩ :=
      s.step_copyAll_alike (c := .copyTexture dst src) rfl rfl rfl hf hsize hformat
    have hregion := s.step_copyRegion_all hne hsize hformat
    exact ⟨t, ht.level0_eq, ht.repainted.config_eq, ht.repainted.rest_eq,
      Memory.load_store_self hdst, hstep, hregion.trans hstep⟩
  · intro hsize hformat
    obtain ⟨t, hstep, ht⟩ :=
      s.step_copyAll_alike (c := .stageTexture stage src) rfl rfl rfl hg hsize hformat
    exact ⟨t, ht.level0_eq, ht.repainted.config_eq, Memory.load_store_self hstage, hstep⟩
  · intro hsize
    exact s.step_copyAll_refused rfl rfl rfl hf (Memory.checkAlike_of_size hsize)
  · intro hsize hformat
    exact s.step_copyAll_refused rfl rfl rfl hf (Memory.checkAlike_of_format hsize hformat)
  · intro hsize
    exact s.step_copyAll_refused rfl rfl rfl hg (Memory.checkAlike_of_size hsize)
  · intro hsize hformat
    exact s.step_copyAll_refused rfl rfl rfl hg (Memory.checkAlike_of_format hsize hformat)
  · intro c _
    exact Workspace.run_perform (w := { session := s }) (fun _ => rfl) c

/-- Two textures of one size and format, of one and of two levels, and a stage surface like them. -/
def twoAlike : Session where
  device := {}
  memory := {
    textures := #[twoPixels, .ofBytes { size := ⟨2, 1⟩, format := .bgrx, levels := 2 }
      #[0, 0, 0, 0, 0, 0, 0, 0, 1, 2, 3, 4, 5, 6, 7, 8] rfl]
    stages := #[⟨.ofBytes twoPixels.config (Array.replicate 8 0) rfl⟩] }

/-- Blue and green, copied and staged with the padding they have. -/
theorem twoAlike_copies_agree :
    (∃ t, t.level0 = #[255, 0, 0, 7, 0, 255, 0, 9] ∧ t.bytes[8]? = some 1 ∧
      twoAlike.step (.copyRegion ⟨1⟩ ⟨0⟩ ⟨0, 0, 0, 0, 0, 0⟩) =
        ⟨.ok .done, [], { twoAlike with memory := twoAlike.memory.setTexture ⟨1⟩ t }⟩) ∧
    ∃ t, t.level0 = #[255, 0, 0, 7, 0, 255, 0, 9] ∧
      twoAlike.step (.stageTexture ⟨0⟩ ⟨0⟩) =
        ⟨.ok .done, [], { twoAlike with memory := twoAlike.memory.setStage ⟨0⟩ ⟨t⟩ }⟩ := by
  have hne : (⟨1⟩ : TextureId) ≠ ⟨0⟩ := by decide
  have hdst : twoAlike.memory.Has (.texture ⟨1⟩) := by decide
  have hstage : twoAlike.memory.Has (.stage ⟨0⟩) := by decide
  obtain ⟨hcopies, hstaged, _⟩ := copies_agree twoAlike hne hdst hstage rfl rfl rfl
  obtain ⟨t, hlevel0, _, hrest, _, _, hregion⟩ := hcopies rfl rfl
  obtain ⟨u, hlevel0', _, _, hstep⟩ := hstaged rfl rfl
  exact ⟨⟨t, hlevel0.trans (by decide), (hrest 8 (by decide)).trans (by decide), hregion⟩,
    u, hlevel0'.trans (by decide), hstep⟩

end BlitDevice
