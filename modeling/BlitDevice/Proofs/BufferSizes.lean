import BlitDevice.Proofs.Canvas

/-!
# How many bytes a texture takes

* `exactCount` — the bytes of all levels as a whole number that nothing bounds; `byteCount_eq` says
  that products of words, checked one after the other, refuse exactly where that number is no word.
* `Texture.create_of_byteCount_error`, `Texture.create_of_byteCount` — creating a texture once its
  bytes are counted.
* `Texture.texelRange` — where a texel stands, on words; `Texture.Addressed` — no address of a
  texture leaves the words or the buffer: `Texture.addressed`.
* `buffers_sized_exactly` — what creating a texture comes to, for every configuration and all
  initial bytes, and the addresses of what is created.
-/

set_option autoImplicit false

namespace BlitDevice

/-! ## Counting bytes -/

/-- The bytes of all levels together. -/
def exactCount (format : PixelFormat) (size : Size) (levels : UInt32) : Nat :=
  format.bytesPerPixel * size.cols * size.rows * max levels.toNat 1

theorem atLeastOne_eq (levels : UInt32) : atLeastOne levels = max levels 1 := by
  have hnat : levels ≤ 1 ↔ levels.toNat ≤ 1 := UInt32.le_iff_toNat_le
  apply UInt32.toNat_inj.mp
  rw [toNat_atLeastOne, UInt32.max_def]
  by_cases h : levels ≤ 1
  · rw [if_pos h]
    show max levels.toNat 1 = 1
    exact Nat.max_eq_right (hnat.mp h)
  · rw [if_neg h]
    rw [hnat] at h
    omega

theorem product?_eq (a b : Nat) :
    product? a b = if a * b ≤ 2 ^ 64 - 1 then some (a * b) else none :=
  if_congr (by omega) rfl rfl

/-- Checked one after the other, three products come to the product of all four factors, if that is
a word. Where it is none before the levels are counted, they do not make up for it: there is one at
least. -/
theorem products_eq {perPixel cols levels : Nat} (hrow : perPixel * cols ≤ 2 ^ 64 - 1) (rows : Nat)
    (hlevels : 0 < levels) :
    (do
      let row ← product? perPixel cols
      let level ← product? row rows
      product? level levels) =
      if perPixel * cols * rows * levels ≤ 2 ^ 64 - 1 then some (perPixel * cols * rows * levels)
      else none := by
  rw [product?_eq, if_pos hrow, Option.bind_eq_bind, Option.bind_some, product?_eq]
  by_cases hlevel : perPixel * cols * rows ≤ 2 ^ 64 - 1
  · rw [if_pos hlevel, Option.bind_some, product?_eq]
  · have hle : perPixel * cols * rows ≤ perPixel * cols * rows * levels :=
      Nat.le_mul_of_pos_right _ hlevels
    rw [if_neg hlevel, if_neg (by omega), Option.bind_none]

/-- **Counting refuses exactly what 64 bits cannot hold**, after formats without pixels of their
own. -/
theorem byteCount_eq (format : PixelFormat) (size : Size) (levels : UInt32) :
    byteCount format size levels =
      if format.isCompressed then .error (.unsupportedFormat format)
      else if exactCount format size levels ≤ 2 ^ 64 - 1 then .ok (exactCount format size levels)
      else .error (.textureTooLarge size (max levels 1)) := by
  cases hcompressed : format.isCompressed with
  | true =>
    have hnone := PixelFormat.bytesPerPixel?_eq_none_iff.mpr hcompressed
    simp only [byteCount, hnone, if_true]
  | false =>
    have hsome : format.bytesPerPixel? = some format.bytesPerPixel := by
      cases h : format.bytesPerPixel? with
      | none => rw [PixelFormat.bytesPerPixel?_eq_none_iff.mp h] at hcompressed; cases hcompressed
      | some n => rw [PixelFormat.bytesPerPixel?_eq_some h]
    -- A row always fits, so only the last two products can refuse.
    have hrow : format.bytesPerPixel * size.cols ≤ 16 * 2 ^ 32 :=
      Nat.mul_le_mul (PixelFormat.bytesPerPixel_bounds hcompressed).2 size.cols_lt.le
    have hproducts := products_eq (show format.bytesPerPixel * size.cols ≤ 2 ^ 64 - 1 by omega)
      size.rows (atLeastOne_pos levels)
    rw [toNat_atLeastOne, ← exactCount, ← toNat_atLeastOne] at hproducts
    simp only [byteCount, hsome, hproducts, ← atLeastOne_eq]
    by_cases hfits : exactCount format size levels ≤ 2 ^ 64 - 1
    · simp only [if_pos hfits, Bool.false_eq_true, if_false]
    · simp only [if_neg hfits, Bool.false_eq_true, if_false]

/-- One level that 64 bits can address is counted. -/
theorem byteCount_of_fits {format : PixelFormat} {size : Size}
    (hplain : format.isCompressed = false)
    (hfits : format.bytesPerPixel * size.cols * size.rows ≤ 2 ^ 64 - 1) :
    byteCount format size 1 = .ok (format.bytesPerPixel * size.cols * size.rows) := by
  have hexact : exactCount format size 1 = format.bytesPerPixel * size.cols * size.rows :=
    Nat.mul_one _
  rw [byteCount_eq, hplain, hexact, if_pos hfits]
  rfl

/-! ## Creating textures -/

namespace Texture

theorem create_of_byteCount_error {config : TextureConfig} {e : Error}
    (h : byteCount config.format config.size config.levels = .error e) (data : Option Bytes) :
    create config data = .error e := by
  unfold create
  split
  · rename_i e' he'
    cases h.symm.trans he'
    rfl
  · rename_i count hcount
    cases h.symm.trans hcount

theorem create_of_byteCount {config : TextureConfig} {count : Nat}
    (h : byteCount config.format config.size config.levels = .ok count) (data : Option Bytes) :
    create config data =
      match data with
      | none => .ok (ofBytes config (Array.replicate count 0) (by rw [h, Array.size_replicate]))
      | some bytes =>
        if hb : bytes.size = count then .ok (ofBytes config bytes (by rw [h, hb]))
        else .error (.invalidInitialData count bytes.size) := by
  unfold create
  split
  · rename_i e he
    cases h.symm.trans he
  · rename_i count' hcount'
    cases h.symm.trans hcount'
    cases data <;> rfl

/-- What creating a texture comes to, told by the exact count of bytes: the first of what stands
against it, or its configuration, with a level at least, and the bytes it was given or as many
zeros. -/
def createExactly (config : TextureConfig) (data : Option Bytes) :
    Except Error (TextureConfig × Bytes) :=
  let n := exactCount config.format config.size config.levels
  let leveled := { config with levels := max config.levels 1 }
  if config.format.isCompressed then .error (.unsupportedFormat config.format)
  else if n ≤ 2 ^ 64 - 1 then
    match data with
    | none => .ok (leveled, Array.replicate n 0)
    | some bytes =>
      if bytes.size = n then .ok (leveled, bytes) else .error (.invalidInitialData n bytes.size)
  else .error (.textureTooLarge config.size (max config.levels 1))

theorem create_eq (config : TextureConfig) (data : Option Bytes) :
    (create config data).map (fun t => (t.config, t.bytes)) = createExactly config data := by
  have hcount := byteCount_eq config.format config.size config.levels
  rw [← atLeastOne_eq] at hcount
  unfold createExactly
  dsimp only
  rw [← atLeastOne_eq]
  by_cases hcompressed : config.format.isCompressed = true
  · rw [if_pos hcompressed] at hcount ⊢
    rw [create_of_byteCount_error hcount]
    rfl
  rw [if_neg hcompressed] at hcount ⊢
  by_cases hfits : exactCount config.format config.size config.levels ≤ 2 ^ 64 - 1
  · rw [if_pos hfits] at hcount ⊢
    rw [create_of_byteCount hcount]
    cases data with
    | none => rfl
    | some bytes =>
      by_cases hsize : bytes.size = exactCount config.format config.size config.levels
      · dsimp only
        rw [dif_pos hsize, if_pos hsize]
        rfl
      · dsimp only
        rw [dif_neg hsize, if_neg hsize]
        rfl
  · rw [if_neg hfits] at hcount ⊢
    rw [create_of_byteCount_error hcount]
    rfl

/-! ## Addresses -/

/-- Where a texel starts and where it ends: texels are counted first, then bytes. -/
def texelRange (t : Texture) (p : Texel) : Checked (Int × Int) := do
  let above ← Word.u64.hold (t.size.cols * p.y)
  let number ← Word.u64.hold (above + p.x)
  let start ← Word.u64.hold (number * t.bytesPerPixel)
  return (start, ← Word.u64.hold (start + t.bytesPerPixel))

variable {t : Texture} {p : Texel}

theorem texelRange_eq (hp : t.contains p = true) :
    t.texelRange p = .ok ((t.offset p : Int), (t.offset p : Int) + t.bytesPerPixel) := by
  have hnumber := number_lt hp
  have htexels : t.size.cols * t.size.rows ≤ t.level0Size := by
    rw [level0Size_eq]
    exact Nat.le_mul_of_pos_right _ t.bytesPerPixel_pos
  have hend := offset_add_le hp
  have hsize := t.level0Size_le
  have habove : Word.u64.hold ((t.size.cols : Int) * p.y) = .ok ((t.size.cols * p.y : Nat) : Int) := by
    rw [← Int.natCast_mul]
    exact hold_of_le_size t (by omega)
  have hcount : Word.u64.hold (((t.size.cols * p.y : Nat) : Int) + p.x) =
      .ok ((t.size.cols * p.y + p.x : Nat) : Int) := by
    rw [← Int.natCast_add]
    exact hold_of_le_size t (by omega)
  have hstart : Word.u64.hold (((t.size.cols * p.y + p.x : Nat) : Int) * t.bytesPerPixel) =
      .ok (t.offset p : Int) := by
    rw [← Int.natCast_mul, ← offset]
    exact hold_of_le_size t (by omega)
  have hstop : Word.u64.hold ((t.offset p : Int) + t.bytesPerPixel) =
      .ok ((t.offset p : Int) + t.bytesPerPixel) := by
    rw [← Int.natCast_add]
    exact hold_of_le_size t (by omega)
  simp only [texelRange, habove, hcount, hstart, hstop, ok_bind, Checked.pure_eq]

/-- No address leaves the words or the buffer: neither the length of a row or of level 0 nor where a
texel starts and ends. -/
structure Addressed (t : Texture) : Prop where
  line : lineLength t = .ok (t.lineSize : Int)
  level : level0Length t = .ok (t.level0Size : Int)
  level_le : t.level0Size ≤ t.bytes.size
  texel : ∀ p, t.contains p = true →
    t.texelRange p = .ok ((t.offset p : Int), (t.offset p : Int) + t.bytesPerPixel) ∧
      t.offset p + t.bytesPerPixel ≤ t.level0Size

theorem addressed (t : Texture) : t.Addressed where
  line := lineLength_eq t
  level := level0Length_eq t
  level_le := t.level0Size_le
  texel _ hp := ⟨texelRange_eq hp, offset_add_le hp⟩

end Texture

/-- **Buffers are sized exactly.** For every format, size and number of levels, counting the bytes
refuses compressed formats first, then what is more than a 64-bit word holds, and otherwise comes to
the product of all four numbers, with one level where none is asked for. Creating a texture refuses
for the same reasons, then initial bytes of another number, and otherwise comes to a texture over
the bytes it was given or as many zeros. No address of that texture leaves the words or its
buffer. -/
theorem buffers_sized_exactly (config : TextureConfig) (data : Option Bytes) :
    (byteCount config.format config.size config.levels =
      if config.format.isCompressed then .error (.unsupportedFormat config.format)
      else if exactCount config.format config.size config.levels ≤ 2 ^ 64 - 1 then
        .ok (exactCount config.format config.size config.levels)
      else .error (.textureTooLarge config.size (max config.levels 1))) ∧
    (Texture.create config data).map (fun t => (t.config, t.bytes)) =
      Texture.createExactly config data ∧
    ∀ t, Texture.create config data = .ok t → t.Addressed :=
  ⟨byteCount_eq _ _ _, Texture.create_eq config data, fun t _ => t.addressed⟩

/-- The largest buffer there can be, the smallest there cannot, and one that is created with a level
though none was asked for. -/
theorem sized_at_the_limit :
    byteCount .r8 ⟨4294967295, 641⟩ 6700417 = .ok (2 ^ 64 - 1) ∧
    byteCount .r8 ⟨0x80000000, 0x80000000⟩ 4 =
      .error (.textureTooLarge ⟨0x80000000, 0x80000000⟩ 4) ∧
    ∃ t, Texture.create ⟨⟨2, 1⟩, .r8, 0, .static, ""⟩ (some #[7, 9]) = .ok t ∧
      t.config = ⟨⟨2, 1⟩, .r8, 1, .static, ""⟩ ∧ t.Addressed := by
  have hlimit := buffers_sized_exactly ⟨⟨4294967295, 641⟩, .r8, 6700417, .static, ""⟩ none
  have hpast := buffers_sized_exactly ⟨⟨0x80000000, 0x80000000⟩, .r8, 4, .static, ""⟩ none
  have hsmall := buffers_sized_exactly ⟨⟨2, 1⟩, .r8, 0, .static, ""⟩ (some #[7, 9])
  refine ⟨hlimit.1.trans (by decide), hpast.1.trans (by decide), _, rfl, rfl, ?_⟩
  exact hsmall.2.2 _ rfl

end BlitDevice
