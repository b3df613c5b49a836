import BlitDevice.Proofs.Encoding

/-!
# What is decoded

Whatever stands in a stream, an image that comes out of it is plain: samples of one byte, as many as
its pixels have, and no palette.

* `Preamble.IsSound` — the header is valid, and nothing but colours without alpha are transparent;
  `isSound_ofChunks` says that this is so of everything that is read.
* `Preamble.length_expand` — a pixel has the samples of its expanded colour.
* `exists_covers`, `exists_rowAt?` — every pixel is in a pass, and in a row of it.
* `Preamble.size_samples` — all pixels together.
* `isPlain_of_decode?` — decoded images are plain.
-/

set_option autoImplicit false

namespace BlitDevice.Png

/-! ## Preambles -/

namespace Preamble

/-- The header is valid, and pixels that have alpha have no transparency beside it. -/
structure IsSound (p : Preamble) : Prop where
  header : p.header.IsValid
  transparency : p.header.color = .grayAlpha ∨ p.header.color = .rgba → p.transparency = none

variable {p q : Preamble}

/-- Whatever is said of them, pixels that have alpha stay as they are. -/
theorem transparency?_eq_none (h : p.header.color = .grayAlpha ∨ p.header.color = .rgba)
    (data : List UInt8) : p.transparency? data = none := by
  rcases h with h | h
  · rw [transparency?, h]
  · rw [transparency?, h]

/-- Neither the header nor what is transparent hangs on the other fields. -/
theorem IsSound.of_eq (hp : p.IsSound) (hheader : q.header = p.header)
    (htransparency : q.transparency = p.transparency) : q.IsSound where
  header := hheader ▸ hp.header
  transparency := by
    rw [hheader, htransparency]
    exact hp.transparency

theorem isSound_addData (hp : p.IsSound) {kind : ChunkKind} {data : List UInt8}
    (h : p.addData kind data = .ok q) : q.IsSound := by
  unfold addData at h
  cases kind with
  | header => cases h
  | palette =>
    dsimp only at h
    split at h
    · cases h
    · cases h
      exact hp.of_eq rfl rfl
  | transparency =>
    dsimp only at h
    split at h
    · cases h
      exact hp
    · cases h
      exact ⟨hp.header, fun halpha => transparency?_eq_none halpha data⟩
  | background =>
    dsimp only at h
    split at h
    · cases h
    · cases h
      exact hp
  | codePoints =>
    dsimp only at h
    split at h
    · cases h
      exact hp
    · split at h
      · cases h
        exact hp.of_eq rfl rfl
      · cases h
  | frameControl =>
    dsimp only at h
    split at h
    · cases h
      exact hp.of_eq rfl rfl
    · cases h
  | frameData => cases h
  | imageData => cases h
  | imageEnd => cases h
  | other critical =>
    dsimp only at h
    split at h
    · cases h
    · cases h
      exact hp

theorem isSound_add (hp : p.IsSound) {c : Chunk} (h : p.add c = .ok q) : q.IsSound := by
  unfold add at h
  split at h
  · cases h
  · split at h
    · split at h
      · cases h
        exact hp
      · cases h
    · split at h
      · split at h
        · cases h
          exact hp
        · cases h
      · exact isSound_addData hp h

theorem isSound_addAll {cs rest : List Chunk} (hp : p.IsSound)
    (h : p.addAll cs = .ok (q, rest)) : q.IsSound := by
  induction cs generalizing p with
  | nil => cases h
  | cons c cs ih =>
    rw [addAll] at h
    split at h
    · cases h
      exact hp
    · cases hadd : p.add c with
      | error e =>
        rw [hadd] at h
        cases h
      | ok p' =>
        rw [hadd] at h
        exact ih (isSound_add hp hadd) h

end Preamble

/-- A header that is read is valid. -/
theorem Header.isValid_ofBytes {bytes : List UInt8} {header : Header}
    (h : Header.ofBytes bytes = .ok header) : header.IsValid := by
  unfold Header.ofBytes at h
  split at h
  · split at h
    · dsimp only at h
      split at h
      · rename_i hvalid
        cases h
        exact hvalid.2
      · cases h
    · cases h
  · cases h

namespace Preamble

variable {p : Preamble}

/-- **All that is read before an image is sound.** -/
theorem isSound_ofChunks {cs rest : List Chunk} (h : ofChunks cs = .ok (p, rest)) :
    p.IsSound := by
  unfold ofChunks at h
  split at h
  · cases h
  · split at h
    · cases h
    · split at h
      · cases h
      · split at h
        · cases h
        · rename_i header hheader
          split at h
          · cases h
          · rename_i q rest' hall
            have hempty : ({ header } : Preamble).IsSound :=
              ⟨Header.isValid_ofBytes hheader, fun _ => rfl⟩
            split at h
            · cases h
            · cases h
              exact isSound_addAll hempty hall

end Preamble

theorem Opening.isSound_read {stream : List UInt8} {o : Opening} (h : Opening.read stream = .ok o) :
    o.preamble.IsSound := by
  unfold Opening.read at h
  split at h
  · cases h
  · obtain ⟨⟨preamble, chunks⟩, hchunks, h⟩ := bind_eq_ok.mp h
    dsimp only at h
    split at h
    · cases h
    · cases h
      exact Preamble.isSound_ofChunks hchunks

/-! ## Pixels -/

namespace Preamble

variable {p : Preamble}

/-- No palette is left. -/
theorem expandedColor_ne (p : Preamble) : p.expandedColor ≠ .indexed := by
  unfold expandedColor
  cases p.header.color <;> cases p.transparency <;> exact nofun

theorem length_entry (p : Preamble) (index : Nat) : (p.entry index).length = 3 := by
  unfold entry
  split <;> rfl

/-- Of a palette, a pixel takes an entry. -/
theorem length_expand_indexed (hcolor : p.header.color = .indexed) (raw : List Nat) :
    (p.expand raw).length = p.expandedColor.channels := by
  unfold expand expandedColor
  rw [hcolor]
  dsimp only
  rcases p.transparency with _ | ⟨_⟩ | ⟨_⟩
  · exact length_entry p _
  · exact (List.length_append ..).trans (congrArg (· + 1) (length_entry p _))
  · exact (List.length_append ..).trans (congrArg (· + 1) (length_entry p _))

/-- Otherwise it has a byte for each sample, and one more where some pixels are transparent. -/
theorem length_expand_of_ne (hcolor : p.header.color ≠ .indexed) (raw : List Nat) :
    (p.expand raw).length = raw.length + if p.transparency = none then 0 else 1 := by
  unfold expand
  split
  · rename_i hindexed
    exact absurd hindexed hcolor
  · dsimp only
    rcases p.transparency with _ | ⟨_⟩ | ⟨_⟩
    · simp only [List.length_map, if_pos, Nat.add_zero]
    · simp only [List.length_append, List.length_map, List.length_singleton, reduceCtorEq, if_false]
    · simp only [List.length_append, List.length_map, List.length_singleton, reduceCtorEq, if_false]

/-- **A pixel has the samples of its expanded colour.** -/
theorem length_expand (hp : p.IsSound) {raw : List Nat}
    (hraw : raw.length = p.header.color.channels) :
    (p.expand raw).length = p.expandedColor.channels := by
  by_cases hindexed : p.header.color = .indexed
  · exact length_expand_indexed hindexed raw
  · rw [length_expand_of_ne hindexed, hraw]
    unfold expandedColor
    cases hcolor : p.header.color with
    | indexed => exact absurd hcolor hindexed
    | grayAlpha => rw [hp.transparency (.inl hcolor)]; rfl
    | rgba => rw [hp.transparency (.inr hcolor)]; rfl
    | gray => cases p.transparency <;> rfl
    | rgb => cases p.transparency <;> rfl

end Preamble

/-! ## Passes -/

variable {h : Header}

/-- **Every pixel is in a pass.** -/
theorem exists_covers (h : Header) (x y : Nat) : ∃ pass ∈ h.passes, pass.covers x y = true := by
  unfold Header.passes
  split
  · -- Steps are 8, 4, 2 or 1, so it is enough to look at the first eight pixels of eight rows.
    have hsquare : ∀ a b : Fin 8, ∃ pass ∈ interlacedPasses, pass.covers a b = true := by decide
    have hsteps : ∀ pass ∈ interlacedPasses, pass.across ∣ 8 ∧ pass.down ∣ 8 := by decide
    obtain ⟨pass, hpass, hcovers⟩ :=
      hsquare ⟨x % 8, Nat.mod_lt x (by omega)⟩ ⟨y % 8, Nat.mod_lt y (by omega)⟩
    obtain ⟨hacross, hdown⟩ := hsteps pass hpass
    refine ⟨pass, hpass, ?_⟩
    rwa [Pass.covers, Nat.mod_mod_of_dvd x hacross, Nat.mod_mod_of_dvd y hdown] at hcovers
  · refine ⟨wholePass, List.mem_singleton.mpr rfl, ?_⟩
    simp only [Pass.covers, wholePass, Nat.mod_one, beq_self_eq_true, Bool.and_self]

theorem down_pos {pass : Pass} (hpass : pass ∈ h.passes) : 0 < pass.across ∧ 0 < pass.down := by
  unfold Header.passes at hpass
  split at hpass
  · revert pass
    decide
  · rw [List.mem_singleton.mp hpass]
    decide

/-- What is covered by steps is counted. -/
theorem lt_count {size start step v : Nat} (hstep : 0 < step) (hv : v < size)
    (hcovers : v % step = start) : v / step < Pass.count size start step := by
  have hdiv := Nat.div_add_mod v step
  rw [hcovers] at hdiv
  rw [Pass.count, Nat.lt_iff_add_one_le, Nat.le_div_iff_mul_le hstep, Nat.add_one_mul, Nat.mul_comm]
  omega

/-- A pixel of a pass is in one of its rows. -/
theorem Pass.lt_rows {pass : Pass} {s : Size} {x y : Nat} (hpass : 0 < pass.across ∧ 0 < pass.down)
    (hcovers : pass.covers x y = true) (hx : x < s.cols) (hy : y < s.rows) :
    y / pass.down < pass.rows s := by
  rw [covers, Bool.and_eq_true, beq_iff_eq, beq_iff_eq] at hcovers
  have hcols : pass.cols s ≠ 0 := Nat.ne_zero_of_lt (lt_count hpass.1 hx hcovers.1)
  rw [rows, if_neg hcols]
  exact lt_count hpass.2 hy hcovers.2

/-- As many rows are read as there are. -/
theorem length_readRows {rowBytes distance : Nat} {data : Bytes} {rows start : Nat} {above : Bytes}
    {lines : List Bytes} (hread : readRows rowBytes distance data rows start above = .ok lines) :
    lines.length = rows := by
  induction rows generalizing start above lines with
  | zero =>
    cases hread
    rfl
  | succ rows ih =>
    rw [readRows] at hread
    split at hread
    · cases hread
    · split at hread
      · cases hread
      · dsimp only at hread
        split at hread
        · cases hread
        · rename_i rest hrest
          cases hread
          rw [List.length_cons, ih hrest]

/-- Passes are read one after the other, each with all its rows. -/
theorem readPasses_spec {data : Bytes} {ps : List Pass} {start : Nat} {passes : List PassRows}
    (hread : readPasses h data ps start = .ok passes) :
    passes.map PassRows.pass = ps ∧ ∀ r ∈ passes, r.rows.size = r.pass.rows h.size := by
  induction ps generalizing start passes with
  | nil =>
    cases hread
    exact ⟨rfl, nofun⟩
  | cons p ps ih =>
    rw [readPasses] at hread
    split at hread
    · cases hread
    · rename_i lines hlines
      split at hread
      · cases hread
      · rename_i rest hrest
        cases hread
        obtain ⟨hpasses, hrows⟩ := ih hrest
        refine ⟨congrArg (p :: ·) hpasses, List.forall_mem_cons.mpr ⟨?_, hrows⟩⟩
        exact List.size_toArray.trans (length_readRows hlines)

/-- **Every pixel is in a row.** -/
theorem exists_rowAt? {data : Bytes} {passes : List PassRows}
    (hread : readPasses h data h.passes 0 = .ok passes) {x y : Nat} (hx : x < h.size.cols)
    (hy : y < h.size.rows) : ∃ row column, rowAt? passes x y = some (row, column) := by
  obtain ⟨hpasses, hrows⟩ := readPasses_spec hread
  obtain ⟨pass, hpass, hcovers⟩ := exists_covers h x y
  rw [← hpasses] at hpass
  obtain ⟨r, hr, rfl⟩ := List.mem_map.mp hpass
  unfold rowAt?
  cases hfind : passes.find? fun r => r.pass.covers x y with
  | none => exact absurd hcovers (List.find?_eq_none.mp hfind r hr)
  | some r' =>
    have hr' := List.mem_of_find?_eq_some hfind
    have hpass' : r'.pass ∈ h.passes := hpasses ▸ List.mem_map_of_mem hr'
    have hcovers' : r'.pass.covers x y = true := by simpa using List.find?_some hfind
    have hlt := Pass.lt_rows (down_pos hpass') hcovers' hx hy
    rw [← hrows r' hr'] at hlt
    dsimp only
    rw [Array.getElem?_eq_getElem hlt]
    exact ⟨_, _, rfl⟩

/-! ## Images -/

namespace Preamble

variable {p : Preamble} {passes : List PassRows}

/-- The samples of a pixel; nothing where it is in no row. -/
def pixelAt (p : Preamble) (passes : List PassRows) (y x : Nat) : List UInt8 :=
  match rowAt? passes x y with
  | some (row, column) => p.expand (rawSamples p.header row column)
  | none => []

/-- The samples of a row of pixels. -/
def rowAt (p : Preamble) (passes : List PassRows) (y : Nat) : List UInt8 :=
  (List.range p.header.size.cols).flatMap (p.pixelAt passes y)

/-- Row by row, and in a row pixel by pixel. -/
theorem toList_samples (p : Preamble) (passes : List PassRows) :
    (p.samples passes).toList = (List.range p.header.size.rows).flatMap (p.rowAt passes) := by
  have hrow (out : Bytes) (y : Nat) :
      (List.range p.header.size.cols).foldl
        (fun (out : Bytes) x => out.appendList (p.pixelAt passes y x)) out =
          out.appendList (p.rowAt passes y) := by
    apply Array.toList_inj.mp
    rw [Bytes.toList_foldl_appendList, Bytes.toList_appendList]
    rfl
  have hrows : p.samples passes = (List.range p.header.size.rows).foldl
      (fun (out : Bytes) y => out.appendList (p.rowAt passes y)) #[] := by
    rw [samples]
    refine List.foldl_ext _ _ _ fun out y _ => ?_
    rw [← hrow]
    refine List.foldl_ext _ _ _ fun out x _ => ?_
    unfold pixelAt
    cases rowAt? passes x y with
    | none => rfl
    | some r => rfl
  rw [hrows, Bytes.toList_foldl_appendList]
  rfl

/-- **All pixels together** have as many samples as there are channels and places. -/
theorem size_samples (hp : p.IsSound)
    (hrow : ∀ x y, x < p.header.size.cols → y < p.header.size.rows →
      ∃ row column, rowAt? passes x y = some (row, column)) :
    (p.samples passes).size =
      p.header.size.cols * p.header.size.rows * p.expandedColor.channels := by
  have hpixel : ∀ y < p.header.size.rows, ∀ x ∈ List.range p.header.size.cols,
      (p.pixelAt passes y x).length = p.expandedColor.channels := by
    intro y hy x hx
    obtain ⟨row, column, hat⟩ := hrow x y (List.mem_range.mp hx) hy
    rw [pixelAt, hat]
    apply length_expand hp
    rw [rawSamples, List.length_map, List.length_range]
  have hrows : ∀ y ∈ List.range p.header.size.rows,
      (p.rowAt passes y).length = p.header.size.cols * p.expandedColor.channels := by
    intro y hy
    rw [rowAt, Bytes.length_flatMap_pieces (hpixel y (List.mem_range.mp hy)), List.length_range]
  rw [← Array.length_toList, toList_samples, Bytes.length_flatMap_pieces hrows, List.length_range,
    ← Nat.mul_assoc, Nat.mul_comm p.header.size.rows]

end Preamble

/-- An image that is read behind a sound preamble is plain. -/
theorem Opening.isPlain_image {o : Opening} {i : Image} (ho : o.preamble.IsSound)
    (h : o.image = .ok i) : i.IsPlain := by
  obtain ⟨_, _, h⟩ := bind_eq_ok.mp h
  obtain ⟨data, _, h⟩ := bind_eq_ok.mp h
  obtain ⟨passes, hpasses, h⟩ := bind_eq_ok.mp h
  cases h
  exact {
    depth_eq := rfl
    not_indexed := o.preamble.expandedColor_ne
    cols_bounds := ho.header.1
    rows_bounds := ho.header.2.1
    size_samples := Preamble.size_samples ho fun _ _ hx hy => exists_rowAt? hpasses hx hy }

/-- **Decoded images are plain**, whatever stands in a stream. -/
theorem isPlain_of_decode? {stream : List UInt8} {i : Image}
    (h : decode? stream = some (.ok i)) : i.IsPlain := by
  unfold decode? at h
  split at h
  · cases h
  · rename_i o ho
    split at h
    · split at h
      · cases h
      · cases h
    · exact Opening.isPlain_image (Opening.isSound_read ho) (Option.some.inj h)

end BlitDevice.Png
