import BlitDevice.Proofs.BlitContents
import BlitDevice.Proofs.Planes

/-!
# Textures with other pixels

Whatever writes to a texture writes pixels of level 0 and nothing else.

* `Texture.Repainted` — one texture is another with other pixels, at most, in level 0. It can be
  composed: `Texture.Repainted.trans`.
* `Texture.repainted_paint`, `Texture.repainted_withLevel0` — the two ways pixels are written, one
  by one and all at once.
* `repainted_blit`, `repainted_convertToLuma`, `Texture.repainted_fill` — the three engines,
  whatever they are given.
-/

set_option autoImplicit false

namespace BlitDevice

namespace Texture

variable {t u v : Texture}

/-- Textures of one configuration have buffers of one length. -/
theorem size_bytes_of_config (h : t.config = u.config) : t.bytes.size = u.bytes.size := by
  have hlevels : t.levels = u.levels := congrArg TextureConfig.levels h
  rw [t.size_bytes, u.size_bytes, level0Size_of_config h, hlevels]

/-- The second texture is the first with other pixels, at most, in level 0. -/
structure Repainted (t u : Texture) : Prop where
  config_eq : u.config = t.config
  rest_eq : ∀ i, t.level0Size ≤ i → u.bytes[i]? = t.bytes[i]?

theorem Repainted.refl (t : Texture) : t.Repainted t := ⟨rfl, fun _ _ => rfl⟩

theorem Repainted.trans (h : t.Repainted u) (h' : u.Repainted v) : t.Repainted v := by
  constructor
  · exact h'.config_eq.trans h.config_eq
  · intro i hi
    have hi' : u.level0Size ≤ i := by rwa [level0Size_of_config h.config_eq]
    rw [h'.rest_eq i hi', h.rest_eq i hi]

/-- Its buffer holds what a buffer of the first configuration holds. -/
theorem Repainted.size_bytes_eq (h : t.Repainted u) :
    u.bytes.size = t.format.bytesPerPixel * t.size.cols * t.size.rows * t.levels.toNat := by
  rw [size_bytes_of_config h.config_eq]
  exact t.bytes_size

theorem repainted_paint {w : Window} {f : Texel → List UInt8 → List UInt8}
    (hw : ∀ q ∈ w.texels, t.contains q = true) : t.Repainted (t.paint w f) :=
  ⟨rfl, fun _ hi => getElem?_bytes_paint hw hi⟩

theorem repainted_withLevel0 {plane : Bytes} (h : plane.size = t.level0Size) :
    t.Repainted (t.withLevel0 plane h) :=
  ⟨rfl, fun _ hi => getElem?_withLevel0 hi⟩

theorem repainted_fill (t : Texture) (px : List UInt8) : t.Repainted (t.fill px) := by
  unfold fill
  split
  · exact repainted_paint fun _ => mem_covering.mp
  · exact Repainted.refl t

end Texture

variable {src dst t : Texture} {log : Log}

theorem repainted_blitByPixel {srcRect dstRect : Rect}
    (h : blitByPixel src dst srcRect dstRect = .ok (t, log)) : dst.Repainted t := by
  unfold blitByPixel at h
  split at h
  · cases h
  · split at h
    · cases h
      exact Texture.Repainted.refl dst
    · cases h
      rw [resample_eq_paint]
      exact Texture.repainted_paint visible_subset

theorem repainted_blit {srcRect dstRect : Rect} (h : blit src dst srcRect dstRect = .ok (t, log)) :
    dst.Repainted t := by
  unfold blit at h
  split at h
  · cases h
    exact Texture.repainted_withLevel0 _
  · exact repainted_blitByPixel h

theorem repainted_convertToLuma {color : Vec4 Float32} (h : convertToLuma src dst color = .ok t) :
    dst.Repainted t := by
  unfold convertToLuma at h
  split at h
  · cases h
  · split at h
    · cases h
    · split at h
      · cases h
      · cases h
        exact Texture.repainted_paint fun _ => Texture.mem_covering.mp

end BlitDevice
