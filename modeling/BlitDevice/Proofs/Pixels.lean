import Mathlib
import BlitDevice.Texture.Paint

/-!
# Where pixels lie in a buffer

* `Texture.offset_add_le`, `Texture.offset_disjoint`, `Texture.exists_offset_eq` — the pixels of
  level 0 lie inside it, do not overlap, and leave no byte out.
* `Window.nodup_texels` — a window holds each texel once; `Window.getElem?_texels` — one that covers
  a texture holds them row by row.
* `Texture.level0_eq_of_pixels`, `Texture.pixel_eq_of_level0` — level 0 is its pixels.
* `Texture.pixel_paint` — painting a window changes the pixels of the window and no other, each as
  the rule says; `Texture.getElem?_bytes_paint` — no byte past level 0 changes.
-/

set_option autoImplicit false

namespace BlitDevice

/-! ## Bytes read back after a write -/

namespace Bytes

/-- What was written is read back. -/
theorem slice_overwrite (b : Bytes) (start : Nat) (vs : List UInt8)
    (h : start + vs.length ≤ b.size) : (b.overwrite start vs).slice start vs.length = vs := by
  apply List.ext_getElem?
  intro i
  rw [getElem?_slice, getElem?_overwrite]
  by_cases hi : i < vs.length
  · rw [if_pos hi, if_pos (by omega), show start + i - start = i by omega]
  · rw [if_neg hi, List.getElem?_eq_none (by omega)]

/-- Bytes beside those written are the old ones. -/
theorem slice_overwrite_of_disjoint {b : Bytes} {start other count : Nat} {vs : List UInt8}
    (h : start + vs.length ≤ other ∨ other + count ≤ start) :
    (b.overwrite start vs).slice other count = b.slice other count := by
  apply List.ext_getElem?
  intro i
  rw [getElem?_slice, getElem?_slice, getElem?_overwrite]
  by_cases hi : i < count
  · rw [if_pos hi, if_pos hi, if_neg (by omega)]
  · rw [if_neg hi, if_neg hi]

end Bytes

/-! ## Texels and offsets -/

namespace Texture

variable {t : Texture} {p q : Texel}

theorem contains_iff : t.contains p = true ↔ p.x < t.size.cols ∧ p.y < t.size.rows := by
  simp [contains]

/-- A texel's number, counted row by row, is below the number of texels. -/
theorem number_lt (h : t.contains p = true) :
    t.size.cols * p.y + p.x < t.size.cols * t.size.rows := by
  obtain ⟨hx, hy⟩ := contains_iff.mp h
  have hrow : t.size.cols * p.y + t.size.cols ≤ t.size.cols * t.size.rows := by
    rw [← Nat.mul_succ]; exact Nat.mul_le_mul_left _ hy
  omega

theorem eq_of_number_eq (hp : t.contains p = true) (hq : t.contains q = true)
    (h : t.size.cols * p.y + p.x = t.size.cols * q.y + q.x) : p = q := by
  obtain ⟨px, py⟩ := p
  obtain ⟨qx, qy⟩ := q
  obtain ⟨hpx, _⟩ := contains_iff.mp hp
  obtain ⟨hqx, _⟩ := contains_iff.mp hq
  dsimp only at hpx hqx h
  have hpos : 0 < t.size.cols := by omega
  have hy : py = qy := by
    have := congrArg (· / t.size.cols) h
    simpa [Nat.mul_add_div hpos, Nat.div_eq_of_lt hpx, Nat.div_eq_of_lt hqx] using this
  subst hy
  rw [Nat.add_left_cancel h]

theorem level0Size_eq (t : Texture) :
    t.level0Size = t.size.cols * t.size.rows * t.bytesPerPixel := by
  rw [level0Size, lineSize, Nat.mul_assoc, Nat.mul_comm]

/-- **A pixel of the texture lies inside level 0.** -/
theorem offset_add_le (h : t.contains p = true) :
    t.offset p + t.bytesPerPixel ≤ t.level0Size := by
  rw [level0Size_eq, offset, ← Nat.succ_mul]
  exact Nat.mul_le_mul_right _ (number_lt h)

/-- **Two pixels of the texture do not overlap.** -/
theorem offset_disjoint (hp : t.contains p = true) (hq : t.contains q = true) (hne : p ≠ q) :
    t.offset p + t.bytesPerPixel ≤ t.offset q ∨ t.offset q + t.bytesPerPixel ≤ t.offset p := by
  simp only [offset, ← Nat.succ_mul]
  rcases Nat.lt_trichotomy (t.size.cols * p.y + p.x) (t.size.cols * q.y + q.x) with h | h | h
  · exact Or.inl (Nat.mul_le_mul_right _ h)
  · exact absurd (eq_of_number_eq hp hq h) hne
  · exact Or.inr (Nat.mul_le_mul_right _ h)

theorem offset_inj (hp : t.contains p = true) (hq : t.contains q = true)
    (h : t.offset p = t.offset q) : p = q :=
  eq_of_number_eq hp hq (Nat.eq_of_mul_eq_mul_right t.bytesPerPixel_pos h)

/-- **Every byte of level 0 belongs to a pixel.** -/
theorem exists_offset_eq {i : Nat} (h : i < t.level0Size) :
    ∃ p, t.contains p = true ∧ ∃ k < t.bytesPerPixel, i = t.offset p + k := by
  rw [level0Size_eq] at h
  have hn : i / t.bytesPerPixel < t.size.cols * t.size.rows :=
    (Nat.div_lt_iff_lt_mul t.bytesPerPixel_pos).mpr h
  have hcols : 0 < t.size.cols := by
    rcases Nat.eq_zero_or_pos t.size.cols with h0 | h0
    · rw [h0, Nat.zero_mul] at hn; exact absurd hn (Nat.not_lt_zero _)
    · exact h0
  refine ⟨⟨i / t.bytesPerPixel % t.size.cols, i / t.bytesPerPixel / t.size.cols⟩, ?_,
    i % t.bytesPerPixel, Nat.mod_lt _ t.bytesPerPixel_pos, ?_⟩
  · rw [contains_iff]
    exact ⟨Nat.mod_lt _ hcols, Nat.div_lt_of_lt_mul hn⟩
  · rw [offset, Nat.div_add_mod, Nat.mul_comm, Nat.div_add_mod]

theorem length_pixel (h : t.contains p = true) : (t.pixel p).length = t.bytesPerPixel := by
  have h1 := offset_add_le h
  have h2 := t.level0Size_le
  rw [pixel, Bytes.length_slice]; omega

theorem getElem?_pixel {k : Nat} (hk : k < t.bytesPerPixel) :
    (t.pixel p)[k]? = t.bytes[t.offset p + k]? := by
  rw [pixel, Bytes.getElem?_slice, if_pos hk]

theorem getElem?_level0 {i : Nat} (h : i < t.level0Size) : t.level0[i]? = t.bytes[i]? := by
  have := t.level0Size_le
  rw [level0, Array.getElem?_extract, if_pos (by omega), Nat.zero_add]

/-- A texture has the texels that cover it. -/
theorem mem_covering : p ∈ (Window.covering t.size).texels ↔ t.contains p = true := by
  rw [Window.mem_texels, contains_iff]
  simp only [Window.covering]
  omega

/-! Textures of one size and format lay their pixels out alike. -/

section layout

variable {u : Texture}

theorem contains_of_size (hs : t.size = u.size) (p : Texel) : t.contains p = u.contains p := by
  rw [contains, hs, contains]

theorem bytesPerPixel_of_format (hf : t.format = u.format) : t.bytesPerPixel = u.bytesPerPixel := by
  rw [bytesPerPixel, hf, bytesPerPixel]

theorem offset_of_format (hs : t.size = u.size) (hf : t.format = u.format) (p : Texel) :
    t.offset p = u.offset p := by
  rw [offset, offset, hs, bytesPerPixel_of_format hf]

theorem level0Size_of_format (hs : t.size = u.size) (hf : t.format = u.format) :
    t.level0Size = u.level0Size := by
  rw [level0Size_eq, level0Size_eq, hs, bytesPerPixel_of_format hf]

end layout


section config

variable {u : Texture} (h : t.config = u.config)

include h

theorem size_of_config : t.size = u.size := congrArg TextureConfig.size h

theorem format_of_config : t.format = u.format := congrArg TextureConfig.format h

theorem bytesPerPixel_of_config : t.bytesPerPixel = u.bytesPerPixel :=
  bytesPerPixel_of_format (format_of_config h)

theorem offset_of_config (p : Texel) : t.offset p = u.offset p :=
  offset_of_format (size_of_config h) (format_of_config h) p

theorem contains_of_config (p : Texel) : t.contains p = u.contains p :=
  contains_of_size (size_of_config h) p

theorem level0Size_of_config : t.level0Size = u.level0Size :=
  level0Size_of_format (size_of_config h) (format_of_config h)

end config

/-- Textures of one size and format with the same pixels have the same level 0. -/
theorem level0_eq_of_pixels {u : Texture} (hs : t.size = u.size) (hf : t.format = u.format)
    (h : ∀ p, t.contains p = true → t.pixel p = u.pixel p) : t.level0 = u.level0 := by
  have hbpp := bytesPerPixel_of_format hf
  have hsz := level0Size_of_format hs hf
  apply Array.ext_getElem?
  intro i
  by_cases hi : i < t.level0Size
  · obtain ⟨p, hp, k, hk, rfl⟩ := exists_offset_eq hi
    rw [getElem?_level0 hi, getElem?_level0 (hsz ▸ hi), ← getElem?_pixel hk, h p hp,
      getElem?_pixel (hbpp ▸ hk), offset_of_format hs hf]
  · rw [Array.getElem?_eq_none (by rw [size_level0]; omega),
      Array.getElem?_eq_none (by rw [size_level0]; omega)]

/-- Textures of one size and format with the same level 0 have the same pixels. -/
theorem pixel_eq_of_level0 {u : Texture} (hs : t.size = u.size) (hf : t.format = u.format)
    (h : t.level0 = u.level0) (hp : t.contains p = true) : t.pixel p = u.pixel p := by
  have hbpp := bytesPerPixel_of_format hf
  have hoff := offset_of_format hs hf p
  have hp' : u.contains p = true := (contains_of_size hs p).symm.trans hp
  have hle := offset_add_le hp
  have hle' := offset_add_le hp'
  apply List.ext_getElem?
  intro k
  by_cases hk : k < t.bytesPerPixel
  · rw [getElem?_pixel hk, getElem?_pixel (hbpp ▸ hk), ← getElem?_level0 (by omega), h, hoff,
      getElem?_level0 (by omega)]
  · rw [List.getElem?_eq_none (by rw [length_pixel hp]; omega),
      List.getElem?_eq_none (by rw [length_pixel hp']; omega)]

/-! ## The same texture over another buffer -/

section withBytes

variable {b : Bytes} {h : b.size = t.bytes.size}

@[simp] theorem bytes_withBytes : (t.withBytes b h).bytes = b := rfl

@[simp] theorem level0Size_withBytes : (t.withBytes b h).level0Size = t.level0Size := rfl

theorem pixel_withBytes : (t.withBytes b h).pixel p = b.slice (t.offset p) t.bytesPerPixel := rfl

/-- A texture is its configuration and its buffer. -/
theorem withBytes_eq {u : Texture} (hc : t.config = u.config) (hb : u.bytes = b) :
    t.withBytes b h = u := by
  obtain ⟨size, levels, format, usage, name, bytes, _, _, _, _⟩ := u
  simp only [config, TextureConfig.mk.injEq] at hc
  obtain ⟨rfl, rfl, rfl, rfl, rfl⟩ := hc
  subst hb
  rfl

end withBytes

end Texture

/-! ## Windows -/

namespace Window

/-- Rows without columns hold no texel, so they may as well be counted. -/
theorem texels_eq (w : Window) :
    w.texels = (List.range' w.top (w.bottom - w.top)).flatMap fun y =>
      w.columns.map fun x => ⟨x, y⟩ := by
  by_cases h : w.left < w.right
  · rw [texels, rows, if_pos h]
  · have hcols : w.columns = [] := by
      rw [columns, show w.right - w.left = 0 by omega, List.range'_zero]
    rw [texels, rows, if_neg h, hcols]
    simp

/-- The texels of all of a texture, row by row. -/
theorem texels_covering (s : Size) :
    (covering s).texels =
      (List.range s.rows).flatMap fun y => (List.range s.cols).map fun x => ⟨x, y⟩ := by
  rw [texels_eq, columns]
  simp only [covering, Nat.sub_zero, ← List.range_eq_range']

/-- **A window holds each of its texels once.** -/
theorem nodup_texels (w : Window) : w.texels.Nodup := by
  rw [texels_eq, List.nodup_flatMap]
  constructor
  · intro y _
    exact (List.nodup_range' 1).map fun a b h => (Texel.mk.inj h).1
  · refine (List.nodup_range' 1).imp ?_
    intro y z hne p hp hq
    obtain ⟨x, _, rfl⟩ := List.mem_map.mp hp
    obtain ⟨x', _, h⟩ := List.mem_map.mp hq
    exact hne (Texel.mk.inj h).2.symm

/-- Counted row by row, the texels of all of a texture are the numbers from zero on. -/
theorem map_number_texels (s : Size) :
    (covering s).texels.map (fun p => s.cols * p.y + p.x) = List.range (s.cols * s.rows) := by
  have hrows : ∀ n, (List.range n).flatMap (fun y => (List.range s.cols).map (s.cols * y + ·)) =
      List.range (s.cols * n) := by
    intro n
    induction n with
    | zero => rfl
    | succ n ih =>
      rw [List.range_succ, List.flatMap_append, ih, List.flatMap_singleton, Nat.mul_succ,
        List.range_add]
  rw [texels_covering, List.map_flatMap, ← hrows]
  simp only [List.map_map]
  rfl

theorem length_texels (s : Size) : (covering s).texels.length = s.cols * s.rows := by
  rw [← List.length_map (fun p : Texel => s.cols * p.y + p.x), map_number_texels, List.length_range]

/-- Counted row by row, each texel stands in its place. -/
theorem getElem?_texels {t : Texture} {p : Texel} (hp : t.contains p = true) :
    (covering t.size).texels[t.size.cols * p.y + p.x]? = some p := by
  obtain ⟨k, hk⟩ := List.mem_iff_getElem?.mp (Texture.mem_covering.mpr hp)
  have hnumber : (List.range (t.size.cols * t.size.rows))[k]? =
      some (t.size.cols * p.y + p.x) := by
    rw [← map_number_texels, List.getElem?_map, hk]
    rfl
  obtain ⟨hlt, hget⟩ := List.getElem?_eq_some_iff.mp hnumber
  rw [List.getElem_range] at hget
  rw [← hget]
  exact hk

/-- Bytes added texel by texel stand row by row. -/
theorem toList_fold_appendList (w : Window) (f : Texel → List UInt8) :
    (w.fold (fun (b : Bytes) p => b.appendList (f p)) #[]).toList = w.texels.flatMap f := by
  rw [fold_eq, Bytes.toList_foldl_appendList]
  rfl

end Window

/-! ## Painting -/

namespace Texture

variable {t : Texture} {f : Texel → List UInt8 → List UInt8}

/-- A rule that gives every pixel as many bytes as it has. -/
def KeepsLength (t : Texture) (f : Texel → List UInt8 → List UInt8) : Prop :=
  ∀ p old, old.length = t.bytesPerPixel → (f p old).length = t.bytesPerPixel

/-- The pixel at `p` in another buffer of the same layout. -/
theorem length_slice_offset {b : Bytes} {p : Texel} (hp : t.contains p = true)
    (hb : b.size = t.bytes.size) :
    (b.slice (t.offset p) t.bytesPerPixel).length = t.bytesPerPixel := by
  have h1 := offset_add_le hp
  have h2 := t.level0Size_le
  rw [Bytes.length_slice]; omega

/-- One step of painting: the pixel gets its new value and every other pixel stays. -/
theorem slice_paintTexel (hf : t.KeepsLength f) {b : Bytes} (hb : b.size = t.bytes.size)
    {p q : Texel} (hp : t.contains p = true) (hq : t.contains q = true) :
    (t.paintTexel f b q).slice (t.offset p) t.bytesPerPixel =
      if q = p then f p (b.slice (t.offset p) t.bytesPerPixel)
      else b.slice (t.offset p) t.bytesPerPixel := by
  have hlen := hf q _ (length_slice_offset hq hb)
  have hle := offset_add_le hq
  have hsz := t.level0Size_le
  rw [paintTexel, List.take_of_length_le (by omega)]
  by_cases h : q = p
  · subst h
    rw [if_pos rfl]
    have := Bytes.slice_overwrite b (t.offset q) (f q (b.slice (t.offset q) t.bytesPerPixel))
      (by omega)
    rwa [hlen] at this
  · rw [if_neg h]
    apply Bytes.slice_overwrite_of_disjoint
    rw [hlen]
    exact offset_disjoint hq hp h

/-- Painting one pixel after the other; each comes up once at most. -/
theorem slice_foldl_paintTexel (hf : t.KeepsLength f) {p : Texel} (hp : t.contains p = true)
    (ps : List Texel) (hps : ∀ q ∈ ps, t.contains q = true) (hnd : ps.Nodup) :
    ∀ b : Bytes, b.size = t.bytes.size →
      (ps.foldl (t.paintTexel f) b).slice (t.offset p) t.bytesPerPixel =
        if p ∈ ps then f p (b.slice (t.offset p) t.bytesPerPixel)
        else b.slice (t.offset p) t.bytesPerPixel := by
  induction ps with
  | nil => intro b _; simp
  | cons q ps ih =>
    intro b hb
    have hq := hps q List.mem_cons_self
    have hb' : (t.paintTexel f b q).size = t.bytes.size := by
      rw [paintTexel, Bytes.size_overwrite, hb]
    obtain ⟨hqps, hnd'⟩ := List.nodup_cons.mp hnd
    rw [List.foldl_cons, ih (fun r hr => hps r (List.mem_cons_of_mem _ hr)) hnd' _ hb',
      slice_paintTexel hf hb hp hq]
    by_cases h : q = p
    · subst h
      rw [if_neg hqps, if_pos rfl, if_pos List.mem_cons_self]
    · rw [if_neg h]
      have hmem : p ∈ q :: ps ↔ p ∈ ps := by
        rw [List.mem_cons]
        exact ⟨fun h' => h'.resolve_left fun e => h e.symm, Or.inr⟩
      simp only [hmem]

/-- A byte past level 0 is no part of any pixel that is painted. -/
theorem getElem?_foldl_paintTexel {i : Nat} (hi : t.level0Size ≤ i) (ps : List Texel)
    (hps : ∀ q ∈ ps, t.contains q = true) (b : Bytes) :
    (ps.foldl (t.paintTexel f) b)[i]? = b[i]? := by
  induction ps generalizing b with
  | nil => rfl
  | cons q ps ih =>
    have hle := offset_add_le (hps q List.mem_cons_self)
    rw [List.foldl_cons, ih fun r hr => hps r (List.mem_cons_of_mem _ hr), paintTexel,
      Bytes.getElem?_overwrite, if_neg]
    rw [List.length_take]
    omega

variable {w : Window}

/-- A painted window is its texels painted one by one. -/
theorem paint_eq : t.paint w f = t.withBytes (w.texels.foldl (t.paintTexel f) t.bytes)
    (t.size_foldl_paintTexel f _ _) := by
  refine (withBytes_eq ?_ ?_).symm
  · rfl
  · rw [paint, bytes_withBytes, paintBytes, Window.fold_eq]

/-- **What painting does to a pixel**: inside the window it gets the value of the rule, outside it
stays. -/
theorem pixel_paint (hf : t.KeepsLength f) (hw : ∀ q ∈ w.texels, t.contains q = true) {p : Texel}
    (hp : t.contains p = true) :
    (t.paint w f).pixel p = if p ∈ w.texels then f p (t.pixel p) else t.pixel p := by
  rw [paint_eq, pixel_withBytes]
  exact slice_foldl_paintTexel hf hp _ hw w.nodup_texels _ rfl

/-- Filling gives every pixel the value, if it is as long as a pixel. -/
theorem pixel_fill {px : List UInt8} (hpx : px.length = t.bytesPerPixel) {p : Texel}
    (hp : t.contains p = true) : (t.fill px).pixel p = px := by
  have hkeeps : t.KeepsLength fun _ _ => px := fun _ _ _ => hpx
  rw [fill, if_pos hpx, pixel_paint hkeeps (fun _ => mem_covering.mp) hp,
    if_pos (mem_covering.mpr hp)]

/-- Only the pixels of the window have a say in what painting comes to. -/
theorem paint_congr {g : Texel → List UInt8 → List UInt8}
    (h : ∀ p ∈ w.texels, ∀ old, f p old = g p old) : t.paint w f = t.paint w g := by
  have hfold : w.texels.foldl (t.paintTexel f) t.bytes =
      w.texels.foldl (t.paintTexel g) t.bytes := by
    refine List.foldl_ext _ _ _ fun b p hp => ?_
    simp only [paintTexel, h p hp]
  simp only [paint_eq, hfold]

/-- **Painting leaves the bytes past level 0 alone.** -/
theorem getElem?_bytes_paint (hw : ∀ q ∈ w.texels, t.contains q = true) {i : Nat}
    (hi : t.level0Size ≤ i) : (t.paint w f).bytes[i]? = t.bytes[i]? := by
  rw [paint_eq, bytes_withBytes]
  exact getElem?_foldl_paintTexel hi _ hw _

/-- Pixels that are written one by one start one behind the other. -/
theorem map_offset_texels (t : Texture) :
    (Window.covering t.size).texels.map t.offset =
      (List.range (t.size.cols * t.size.rows)).map (· * t.bytesPerPixel) := by
  rw [← Window.map_number_texels, List.map_map]
  rfl

/-- Textures of one configuration that agree on level 0 and past it are the same. -/
theorem eq_of_level0 {u : Texture} (hc : t.config = u.config) (h0 : t.level0 = u.level0)
    (h : ∀ i, t.level0Size ≤ i → t.bytes[i]? = u.bytes[i]?) : t = u := by
  have hsz : t.level0Size = u.level0Size := by rw [← size_level0, ← size_level0, h0]
  refine withBytes_eq (t := t) (b := t.bytes) (h := rfl) hc (Array.ext_getElem? fun i => ?_)
  by_cases hi : i < t.level0Size
  · rw [← getElem?_level0 (hsz ▸ hi), ← h0, getElem?_level0 hi]
  · exact (h i (by omega)).symm

section withLevel0

variable {plane : Bytes} {h : plane.size = t.level0Size}

theorem level0_withLevel0 : (t.withLevel0 plane h).level0 = plane := by
  rw [withLevel0, level0, level0Size_withBytes, bytes_withBytes, ← h, Array.extract_append_left,
    Array.extract_size]

theorem getElem?_withLevel0 {i : Nat} (hi : t.level0Size ≤ i) :
    (t.withLevel0 plane h).bytes[i]? = t.bytes[i]? := by
  rw [withLevel0, bytes_withBytes, Array.getElem?_append_right (by omega), h,
    Array.getElem?_extract, Nat.add_sub_cancel' hi]
  split
  · rfl
  · exact (Array.getElem?_eq_none (by omega)).symm

end withLevel0

end Texture

end BlitDevice
