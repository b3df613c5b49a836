import BlitDevice.Proofs.BlitSafety

/-!
# How evenly a side is sampled

A side of `span` offsets is sampled from `extent` texels of a source, from `origin` on.

* `floor_add_sub`, `ceil_add_sub` — one step further on a line of slope `r`, the number of whole
  steps grows by `⌊r⌋` or `⌈r⌉`.
* `sampled` — the coordinate of an offset; `offsetsFrom` are the offsets that have it.
* `EvenlySpread` — what the coordinates are like when the source has all the texels asked for;
  `evenlySpread_sampled` says that they are.
* `monotoneOn_sampled`, `antitoneOn_sampled` — whatever is asked for, the coordinates go one way.
* `sides_sampled_evenly` — all of this for machine words.
-/

set_option autoImplicit false

namespace BlitDevice

/-! ## Steps along a line -/

theorem floor_add_sub (q r : ℚ) : ⌊q + r⌋ - ⌊q⌋ = ⌊r⌋ ∨ ⌊q + r⌋ - ⌊q⌋ = ⌈r⌉ := by
  have hlow : ⌊q⌋ + ⌊r⌋ ≤ ⌊q + r⌋ := Int.le_floor_add q r
  have hhigh : ⌊q + r⌋ ≤ ⌊q⌋ + ⌈r⌉ := by
    rw [← Int.floor_add_intCast]
    exact Int.floor_mono (by linarith [Int.le_ceil r])
  have hnear := Int.ceil_le_floor_add_one r
  omega

theorem ceil_add_sub (q r : ℚ) : ⌈q + r⌉ - ⌈q⌉ = ⌊r⌋ ∨ ⌈q + r⌉ - ⌈q⌉ = ⌈r⌉ := by
  have hlow : ⌈q⌉ + ⌊r⌋ ≤ ⌈q + r⌉ := by
    rw [← Int.ceil_add_intCast]
    exact Int.ceil_mono (by linarith [Int.floor_le r])
  have hhigh : ⌈q + r⌉ ≤ ⌈q⌉ + ⌈r⌉ := Int.ceil_add_le q r
  have hnear := Int.ceil_le_floor_add_one r
  omega

theorem ediv_eq_floor {n d : Int} (hd : 0 < d) : n / d = ⌊(n / d : ℚ)⌋ := by
  obtain ⟨m, rfl⟩ := Int.eq_ofNat_of_zero_le hd.le
  rw [Int.cast_natCast, Rat.floor_intCast_div_natCast]

/-! ## Coordinates along a side -/

/-- The coordinate that an offset is taken from. -/
def sampled (origin extent span : Int) (size : Nat) (offset : Int) : Int :=
  sourceCoord offset origin extent span size

/-- The offsets of a side that are taken from a coordinate. -/
noncomputable def offsetsFrom (c : Int → Int) (span v : Int) : Finset Int :=
  (Finset.Ico 0 span).filter fun i => c i = v

/-- What the coordinates along a side are like when the source has every texel asked for. -/
structure EvenlySpread (origin extent span : Int) (c : Int → Int) : Prop where
  /-- The first texel comes first. -/
  first : c 0 = origin
  /-- Nothing is held inside the source. -/
  unclamped : ∀ i ∈ Set.Ico 0 span, c i = origin + ⌊(i * extent / span : ℚ)⌋
  inside : ∀ i ∈ Set.Ico 0 span, c i ∈ Set.Ico origin (origin + extent)
  monotone : MonotoneOn c (Set.Ico 0 span)
  /-- Steps differ by one at most. -/
  step : ∀ i, 0 ≤ i → i + 1 < span →
    c (i + 1) - c i = ⌊(extent / span : ℚ)⌋ ∨ c (i + 1) - c i = ⌈(extent / span : ℚ)⌉
  /-- So do the numbers of times that texels are taken. -/
  count : ∀ v ∈ Set.Ico origin (origin + extent),
    ((offsetsFrom c span v).card : Int) = ⌊(span / extent : ℚ)⌋ ∨
      ((offsetsFrom c span v).card : Int) = ⌈(span / extent : ℚ)⌉
  /-- A source that is not too large is taken in full. -/
  onto : extent ≤ span → ∀ v ∈ Set.Ico origin (origin + extent), ∃ i ∈ Set.Ico 0 span, c i = v
  /-- Of one that is not too small no texel is taken twice. -/
  once : span ≤ extent → Set.InjOn c (Set.Ico 0 span)

section side

variable {origin extent span : Int} {size : Nat}

theorem sampled_eq_ediv (i : Int) : sampled origin extent span size i =
    max 0 (min (origin + i * extent / span) (size - 1)) :=
  Int.toNat_of_nonneg (le_max_left _ _)

/-- The coordinates never turn back. -/
theorem monotoneOn_sampled (hspan : 0 < span) (he : 0 ≤ extent) :
    MonotoneOn (sampled origin extent span size) (Set.Ico 0 span) := by
  intro i _ j _ hij
  have hscaled : i * extent / span ≤ j * extent / span :=
    Int.ediv_le_ediv hspan (mul_le_mul_of_nonneg_right hij he)
  rw [sampled_eq_ediv, sampled_eq_ediv]
  omega

theorem antitoneOn_sampled (hspan : 0 < span) (he : extent ≤ 0) :
    AntitoneOn (sampled origin extent span size) (Set.Ico 0 span) := by
  intro i _ j _ hij
  have hscaled : j * extent / span ≤ i * extent / span :=
    Int.ediv_le_ediv hspan (mul_le_mul_of_nonpos_right hij he)
  rw [sampled_eq_ediv, sampled_eq_ediv]
  omega

/-- A scaled offset lies in the extent exactly for the offsets of the side. -/
theorem scaled_mem_Ico_iff (hspan : 0 < span) (he : 0 < extent) (i : Int) :
    i * extent / span ∈ Set.Ico 0 extent ↔ i ∈ Set.Ico 0 span := by
  have hlow : 0 ≤ i * extent / span ↔ 0 ≤ i := by
    rw [Int.le_ediv_iff_mul_le hspan, zero_mul]
    exact mul_nonneg_iff_of_pos_right he
  have hhigh : i * extent / span < extent ↔ i < span := by
    rw [Int.ediv_lt_iff_lt_mul hspan, mul_comm extent]
    exact mul_lt_mul_iff_of_pos_right he
  rw [Set.mem_Ico, Set.mem_Ico, hlow, hhigh]

section covered

variable (ho : 0 ≤ origin) (he : 1 ≤ extent) (hs : origin + extent ≤ size) (hspan : 0 < span)

include ho he hs hspan

/-- The coordinate of an offset. -/
theorem sampled_eq {i : Int} (hi : i ∈ Set.Ico 0 span) :
    sampled origin extent span size i = origin + i * extent / span := by
  obtain ⟨h0, h1⟩ := (scaled_mem_Ico_iff hspan he i).mpr hi
  rw [sampled_eq_ediv]
  omega

/-- **The offsets of a texel** are the whole numbers between two places on a line of slope
`span / extent`. -/
theorem offsetsFrom_eq {k : Int} (hk : k ∈ Set.Ico 0 extent) :
    offsetsFrom (sampled origin extent span size) span (origin + k) =
      Finset.Ico ⌈(k * (span / extent) : ℚ)⌉ ⌈(k * (span / extent) + span / extent : ℚ)⌉ := by
  have he' : (0 : ℚ) < extent := by exact_mod_cast he
  have hspan' : (0 : ℚ) < span := by exact_mod_cast hspan
  have hplace : ∀ i : Int, i * extent / span = k ↔
      (k * (span / extent) : ℚ) ≤ i ∧ (i : ℚ) < k * (span / extent) + span / extent := by
    intro i
    have hlow : (k : ℚ) ≤ i * extent / span ↔ (k * (span / extent) : ℚ) ≤ i := by
      rw [le_div_iff₀ hspan', mul_div_assoc', div_le_iff₀ he']
    have hhigh : (i * extent / span : ℚ) < k + 1 ↔
        (i : ℚ) < k * (span / extent) + span / extent := by
      rw [← add_one_mul, div_lt_iff₀ hspan', mul_div_assoc', lt_div_iff₀ he']
    rw [ediv_eq_floor hspan, Int.floor_eq_iff, Int.cast_mul, hlow, hhigh]
  ext i
  rw [offsetsFrom, Finset.mem_filter, Finset.mem_Ico, Finset.mem_Ico, Int.ceil_le, Int.lt_ceil,
    ← hplace]
  constructor
  · rintro ⟨hi, hc⟩
    rw [sampled_eq ho he hs hspan hi] at hc
    omega
  · rintro rfl
    have hi : i ∈ Set.Ico 0 span := (scaled_mem_Ico_iff hspan he i).mp hk
    exact ⟨hi, sampled_eq ho he hs hspan hi⟩

theorem card_offsetsFrom {v : Int} (hv : v ∈ Set.Ico origin (origin + extent)) :
    ((offsetsFrom (sampled origin extent span size) span v).card : Int) =
        ⌊(span / extent : ℚ)⌋ ∨
      ((offsetsFrom (sampled origin extent span size) span v).card : Int) =
        ⌈(span / extent : ℚ)⌉ := by
  have hslope : (0 : ℚ) ≤ span / extent :=
    div_nonneg (by exact_mod_cast hspan.le) (by exact_mod_cast (by omega : 0 ≤ extent))
  have hfloor : 0 ≤ ⌊(span / extent : ℚ)⌋ := Int.floor_nonneg.mpr hslope
  have hceil : 0 ≤ ⌈(span / extent : ℚ)⌉ := Int.ceil_nonneg hslope
  obtain ⟨k, rfl⟩ : ∃ k, v = origin + k := ⟨v - origin, by omega⟩
  have hk : k ∈ Set.Ico 0 extent := ⟨by have := hv.1; omega, by have := hv.2; omega⟩
  rw [offsetsFrom_eq ho he hs hspan hk, Int.card_Ico]
  have hstep := ceil_add_sub (k * (span / extent)) (span / extent)
  omega

/-- **A source that has every texel asked for is sampled evenly.** -/
theorem evenlySpread_sampled :
    EvenlySpread origin extent span (sampled origin extent span size) where
  first := by
    rw [sampled_eq ho he hs hspan ⟨le_rfl, hspan⟩, zero_mul, Int.zero_ediv, add_zero]
  unclamped i hi := by
    rw [sampled_eq ho he hs hspan hi, ediv_eq_floor hspan, Int.cast_mul]
  inside i hi := by
    obtain ⟨h0, h1⟩ := (scaled_mem_Ico_iff hspan he i).mpr hi
    rw [sampled_eq ho he hs hspan hi]
    exact ⟨by omega, by omega⟩
  monotone := monotoneOn_sampled hspan (by omega)
  step i h0 h1 := by
    have hi : i ∈ Set.Ico 0 span := ⟨h0, by omega⟩
    have hi' : i + 1 ∈ Set.Ico 0 span := ⟨by omega, h1⟩
    have hnext : (((i + 1) * extent : Int) / span : ℚ) =
        ((i * extent : Int) / span : ℚ) + extent / span := by
      push_cast
      ring
    have hstep := floor_add_sub ((i * extent : Int) / span : ℚ) (extent / span)
    rw [sampled_eq ho he hs hspan hi, sampled_eq ho he hs hspan hi', ediv_eq_floor hspan,
      ediv_eq_floor hspan, hnext]
    omega
  count v hv := card_offsetsFrom ho he hs hspan hv
  onto hle v hv := by
    have hone : 1 ≤ ⌊(span / extent : ℚ)⌋ := by
      rw [← ediv_eq_floor (by omega), Int.le_ediv_iff_mul_le (by omega)]
      omega
    have hcard : (offsetsFrom (sampled origin extent span size) span v).card ≠ 0 := by
      have hle := Int.floor_le_ceil (span / extent : ℚ)
      have hcount := card_offsetsFrom ho he hs hspan hv
      omega
    obtain ⟨i, hi⟩ := Finset.card_ne_zero.mp hcard
    obtain ⟨hi, hc⟩ := Finset.mem_filter.mp hi
    exact ⟨i, Finset.mem_Ico.mp hi, hc⟩
  once hle := by
    have hone : ⌈(span / extent : ℚ)⌉ ≤ 1 := by
      rw [Int.ceil_le, Int.cast_one, div_le_one (by exact_mod_cast he)]
      exact_mod_cast hle
    intro i hi j hj hij
    obtain ⟨h0, h1⟩ := (scaled_mem_Ico_iff hspan he i).mpr hi
    have hv : sampled origin extent span size i ∈ Set.Ico origin (origin + extent) := by
      rw [sampled_eq ho he hs hspan hi]
      exact ⟨by omega, by omega⟩
    have hcard : (offsetsFrom (sampled origin extent span size) span
        (sampled origin extent span size i)).card ≤ 1 := by
      have hle := Int.floor_le_ceil (span / extent : ℚ)
      have hcount := card_offsetsFrom ho he hs hspan hv
      omega
    exact Finset.card_le_one.mp hcard i (Finset.mem_filter.mpr ⟨Finset.mem_Ico.mpr hi, rfl⟩) j
      (Finset.mem_filter.mpr ⟨Finset.mem_Ico.mpr hj, hij.symm⟩)

end covered

end side

/-- **Sides are sampled evenly.** Every offset of a side of machine words has its coordinate in the
source, whatever is asked for; the coordinates never turn back, or with a negative extent never turn
forward. Where the source has every texel asked for, they start with the first one, none is moved to
get inside, steps are `extent / span` rounded down or up, every texel is taken `span / extent` times
rounded down or up, so that none is left out of a small source and none taken twice of a large
one. -/
theorem sides_sampled_evenly {origin extent span : Int} {size : Nat}
    (ho : Word.i64.Holds origin) (he : Word.i64.Holds extent) (hd : Word.i64.Holds span)
    (hspan : 1 ≤ span) (hsize : 1 ≤ size) (h32 : size < 2 ^ 32) :
    (∀ i ∈ Set.Ico 0 span,
      scaleAxis i origin extent span size = .ok (sampled origin extent span size i) ∧
        sampled origin extent span size i ∈ Set.Icc 0 (size - 1 : Int)) ∧
    (0 ≤ extent → MonotoneOn (sampled origin extent span size) (Set.Ico 0 span)) ∧
    (extent ≤ 0 → AntitoneOn (sampled origin extent span size) (Set.Ico 0 span)) ∧
    (0 ≤ origin → 1 ≤ extent → origin + extent ≤ size →
      EvenlySpread origin extent span (sampled origin extent span size)) := by
  refine ⟨?_, monotoneOn_sampled hspan, antitoneOn_sampled hspan, ?_⟩
  · rintro i ⟨h0, h1⟩
    rw [Word.holds_i64] at hd
    have hi : Word.i64.Holds i := Word.holds_i64.mpr ⟨by omega, by omega⟩
    refine ⟨scaleAxis_eq hi ho he hspan hsize h32, ?_⟩
    rw [sampled_eq_ediv]
    exact ⟨by omega, by omega⟩
  · intro horigin hextent hinside
    exact evenlySpread_sampled horigin hextent hinside hspan

/-- Three texels of six, from the second on, for five offsets: the last one is taken once or
twice. -/
theorem five_sampled_from_three :
    scaleAxis 4 1 3 5 6 = .ok 3 ∧ EvenlySpread 1 3 5 (sampled 1 3 5 6) ∧
      ((offsetsFrom (sampled 1 3 5 6) 5 3).card = 1 ∨
        (offsetsFrom (sampled 1 3 5 6) 5 3).card = 2) := by
  obtain ⟨hwords, _, _, heven⟩ := @sides_sampled_evenly 1 3 5 6 (by decide) (by decide)
    (by decide) (by decide) (by decide) (by decide)
  have hspread := heven (by decide) (by decide) (by decide)
  have hfloor : ⌊((5 : Int) / (3 : Int) : ℚ)⌋ = 1 := by norm_num
  have hceil : ⌈((5 : Int) / (3 : Int) : ℚ)⌉ = 2 := by norm_num
  have hcount := hspread.count 3 ⟨by decide, by decide⟩
  exact ⟨(hwords 4 ⟨by decide, by decide⟩).1, hspread, by omega⟩

end BlitDevice
