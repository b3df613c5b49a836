import BlitDevice.Png.Encode
import BlitDevice.Proofs.Fault
import BlitDevice.Proofs.StoredStreams

/-!
# What is encoded is decoded

* `Chunk.split_parts`, `length_store` — the parts of an image come off as chunks, since none is too
  long for one.
* `inflate_blocks`, `inflate_store` — the blocks of a buffer are decoded, and with them the buffer.
* `Image.IsPlain` — an image that can be written down as it is; `Image.IsPlain.readPasses_filtered`
  and `Image.IsPlain.samples_eq` give its rows and its samples back.
* `decode?_encode` — what is encoded is decoded.
-/

set_option autoImplicit false

namespace BlitDevice.Png

/-! ## Chunks -/

namespace Chunk

theorem split_nil : split [] = [] := by
  rw [split]
  split
  · rfl
  · rename_i h
    cases h

/-- A sound chunk of image data. -/
def ofPart (part : List UInt8) : Chunk := ⟨.imageData, part, .sound⟩

/-- The end of a stream, as a chunk. -/
def theEnd : Chunk := ⟨.imageEnd, [], .sound⟩

/-- Parts of the image data come off one by one, and then the end. -/
theorem split_parts {parts : List (List UInt8)} (h : ∀ part ∈ parts, part.length < lengthLimit) :
    split (parts.flatMap (write imageDataTag) ++ write imageEndTag []) =
      parts.map ofPart ++ [theEnd] := by
  induction parts with
  | nil =>
    have hend : split (write imageEndTag [] ++ []) = theEnd :: split [] :=
      split_write rfl (by decide)
    rw [List.append_nil, split_nil] at hend
    exact hend
  | cons part parts ih =>
    obtain ⟨hpart, hparts⟩ := List.forall_mem_cons.mp h
    rw [List.flatMap_cons, List.append_assoc, split_write rfl hpart, ih hparts]
    rfl

end Chunk

/-- No part of a stored stream is too long for a chunk. -/
theorem length_store {data : Bytes} {part : List UInt8} (h : part ∈ Deflate.store data) :
    part.length < Chunk.lengthLimit := by
  have hstored : ∀ last block, (Deflate.storedBlock last block).length = block.length + 5 := by
    intro last block
    simp only [Deflate.storedBlock, Deflate.shortBytes, List.length_cons, List.length_append,
      List.length_map, List.length_nil]
    omega
  rcases List.mem_append.mp h with h | h
  · rcases List.mem_cons.mp h with rfl | h
    · decide
    · obtain ⟨i, _, rfl⟩ := List.mem_map.mp h
      rw [hstored, Bytes.length_slice]
      simp only [Deflate.blockLimit, Deflate.stride, Chunk.lengthLimit]
      omega
  · rw [List.mem_singleton.mp h, length_wordBytes]
    decide

/-! ## Image data -/

variable {enough : Nat} {s t : Deflate.Inflater} {cs : List Chunk}

theorem checkData_parts (parts : List (List UInt8)) :
    checkData (parts.map Chunk.ofPart ++ [Chunk.theEnd]) = .ok () := by
  induction parts with
  | nil => rfl
  | cons part parts ih => exact ih

/-- A part is taken in, and that is all if enough bytes are released then. -/
theorem inflate_cons {part : List UInt8} (h : s.feed? enough part = some t) :
    inflate enough s (Chunk.ofPart part :: cs) =
      if enough ≤ t.released then .ok t.out else inflate enough t cs := by
  rw [inflate]
  simp only [Chunk.ofPart, ne_eq, not_true_eq_false, if_false, reduceCtorEq, h]

/-- **The blocks of a buffer are decoded**, from any of them on. -/
theorem inflate_blocks {data : Bytes} {i : Nat} (cs : List Chunk) (hdata : 0 < data.size)
    (h : s.AtBlock (data.extract 0 (i * Deflate.blockLimit)) data.size)
    (hi : i < Deflate.blockCount data.size) :
    inflate data.size s (((List.range' i (Deflate.blockCount data.size - i)).map fun i =>
      Chunk.ofPart (Deflate.storedBlock (i + 1 == Deflate.blockCount data.size)
        (data.slice (i * Deflate.blockLimit) Deflate.blockLimit))) ++ cs) = .ok data := by
  obtain ⟨n, hn⟩ : ∃ n, Deflate.blockCount data.size - i = n + 1 :=
    ⟨Deflate.blockCount data.size - i - 1, by omega⟩
  induction n generalizing i s with
  | zero =>
    obtain ⟨t, hfeed, hlast, _⟩ := h.feed?_storedBlocks hdata hi
    obtain ⟨hout, hreleased⟩ := hlast (by omega)
    rw [hn, List.range'_one, List.map_singleton, List.singleton_append, inflate_cons hfeed,
      if_pos (Nat.le_of_eq hreleased.symm), hout]
  | succ n ih =>
    obtain ⟨t, hfeed, _, hmore⟩ := h.feed?_storedBlocks hdata hi
    obtain ⟨hbetween, hreleased⟩ := hmore (by omega)
    have hrest := ih hbetween (by omega) (by omega)
    rw [hn, List.range'_succ, List.map_cons, List.cons_append, inflate_cons hfeed,
      if_neg (Nat.not_le.mpr hreleased)]
    rwa [show Deflate.blockCount data.size - (i + 1) = n + 1 by omega] at hrest

/-- **A stored buffer is inflated to what it was.** -/
theorem inflate_store {data : Bytes} (hdata : 0 < data.size) :
    inflate data.size (.ofWanted data.size) ((Deflate.store data).map Chunk.ofPart ++ cs) =
      .ok data := by
  obtain ⟨t, hfeed, hstart⟩ := Deflate.Inflater.feed?_streamHeader data.size hdata
  have hreleased := hstart.released_lt hdata
  have hcount : 0 < Deflate.blockCount data.size := by
    rw [Deflate.blockCount_iff hdata]
    omega
  have hzero : t.AtBlock (data.extract 0 (0 * Deflate.blockLimit)) data.size := by
    rw [Nat.zero_mul, Array.extract_zero]
    exact hstart
  have hblocks := inflate_blocks
    ([Chunk.ofPart (wordBytes (Deflate.adler32 data.toList))] ++ cs) hdata hzero hcount
  rw [Nat.sub_zero, ← List.range_eq_range'] at hblocks
  rw [Deflate.store, List.map_append, List.map_cons, List.cons_append, List.cons_append,
    inflate_cons hfeed, if_neg (Nat.not_le.mpr hreleased), Deflate.storedBlocks, List.map_map,
    List.append_assoc]
  exact hblocks

/-! ## Rows -/

/-- Rows one after the other, each after the byte that says it has no filter. -/
def unfiltered (rows : List (List UInt8)) : List UInt8 := rows.flatMap (0 :: ·)

/-- **Rows without a filter are read back.** -/
theorem readRows_unfiltered {rowBytes : Nat} {data : Bytes} {rows : List (List UInt8)}
    (distance : Nat) (above : Bytes) (front : List UInt8)
    (hrows : ∀ row ∈ rows, row.length = rowBytes) (hdata : data.toList = front ++ unfiltered rows) :
    readRows rowBytes distance data rows.length front.length above =
      .ok (rows.map List.toArray) := by
  induction rows generalizing front above with
  | nil => rfl
  | cons row rows ih =>
    obtain ⟨hrow, hrest⟩ := List.forall_mem_cons.mp hrows
    have hcons : unfiltered (row :: rows) = 0 :: (row ++ unfiltered rows) := rfl
    rw [hcons] at hdata
    have hfirst : data[front.length]? = some 0 := by
      rw [← Array.getElem?_toList, hdata, List.getElem?_append_right (Nat.le_refl _),
        Nat.sub_self, List.getElem?_cons_zero]
    have hfilter : readFilter data front.length = .ok .none := by
      rw [readFilter, hfirst]
      rfl
    have hsize : ¬ data.size < front.length + 1 + rowBytes := by
      rw [← Array.length_toList, hdata, List.length_append, List.length_cons, List.length_append]
      omega
    have hdata' : data.toList = (front ++ [0]) ++ (row ++ unfiltered rows) := by
      rw [hdata, List.append_assoc, List.singleton_append]
    have hslice : data.slice (front.length + 1) rowBytes = row := by
      have hmiddle := Bytes.slice_middle hdata'
      rwa [List.length_append, List.length_singleton, hrow] at hmiddle
    have hnext := ih row.toArray (front ++ [0] ++ row) hrest
      (by rw [hdata', List.append_assoc (front ++ [0])])
    rw [List.length_append, List.length_append, List.length_singleton, hrow] at hnext
    rw [List.length_cons, readRows, hfilter]
    simp only [if_neg hsize, hslice, unfilterRow_none, hnext]
    rfl

/-! ## Samples -/

namespace Image

variable {i : Image}

/-- An image with samples of one byte, as many as it takes, and no palette; its sides are such as a
header can say. -/
structure IsPlain (i : Image) : Prop where
  depth_eq : i.depth = .eight
  not_indexed : i.color ≠ .indexed
  cols_bounds : 0 < i.size.cols ∧ i.size.cols ≤ Header.longestSide
  rows_bounds : 0 < i.size.rows ∧ i.size.rows ≤ Header.longestSide
  size_samples : i.samples.size = i.size.cols * i.size.rows * i.color.channels

/-- The bytes of a row. -/
def row (i : Image) (y : Nat) : List UInt8 :=
  i.samples.slice (y * (i.size.cols * i.color.channels)) (i.size.cols * i.color.channels)

theorem IsPlain.rowBytes_eq (h : i.IsPlain) :
    i.header.rowBytes i.size.cols = i.size.cols * i.color.channels := by
  simp only [Header.rowBytes, Header.bitsPerPixel, header, h.depth_eq, BitDepth.bits,
    ← Nat.mul_assoc]
  omega

theorem IsPlain.isValid_header (h : i.IsPlain) : i.header.IsValid := by
  refine ⟨h.cols_bounds, h.rows_bounds, ?_⟩
  have hdepth : i.header.depth = .eight := h.depth_eq
  have hcolor : i.header.color = i.color := rfl
  rw [hdepth, hcolor]
  cases i.color <;> decide

theorem IsPlain.size_rows (h : i.IsPlain) :
    i.samples.size = i.size.rows * (i.size.cols * i.color.channels) := by
  rw [h.size_samples, Nat.mul_comm i.size.cols, Nat.mul_assoc]

theorem IsPlain.length_row (h : i.IsPlain) {y : Nat} (hy : y < i.size.rows) :
    (i.row y).length = i.size.cols * i.color.channels := by
  have hle : (y + 1) * (i.size.cols * i.color.channels) ≤
      i.size.rows * (i.size.cols * i.color.channels) := Nat.mul_le_mul_right _ hy
  rw [row, Bytes.length_slice, h.size_rows]
  rw [Nat.add_one_mul] at hle
  omega

theorem IsPlain.length_rows (h : i.IsPlain) :
    ∀ row ∈ (List.range i.size.rows).map i.row, row.length = i.size.cols * i.color.channels := by
  intro row hrow
  obtain ⟨y, hy, rfl⟩ := List.mem_map.mp hrow
  exact h.length_row (List.mem_range.mp hy)

/-- The rows are all samples. -/
theorem IsPlain.flatMap_row (h : i.IsPlain) :
    (List.range i.size.rows).flatMap i.row = i.samples.toList := by
  have hslices := Bytes.flatMap_slice i.samples (i.size.cols * i.color.channels) i.size.rows
  rw [← h.size_rows, ← Array.length_toList, List.take_length] at hslices
  exact hslices

/-- What is encoded are the rows, without filters. -/
theorem IsPlain.toList_filtered (h : i.IsPlain) :
    i.filtered.toList = unfiltered ((List.range i.size.rows).map i.row) := by
  have hfold : i.filtered = (List.range i.size.rows).foldl
      (fun (out : Bytes) y => out.appendList (0 :: i.row y)) #[] := by
    unfold filtered
    rw [h.rowBytes_eq]
    rfl
  rw [hfold, Bytes.toList_foldl_appendList, unfiltered, List.flatMap_map]
  rfl

theorem IsPlain.size_filtered (h : i.IsPlain) :
    i.filtered.size = i.size.rows * (1 + i.size.cols * i.color.channels) := by
  have hpieces : ∀ row ∈ (List.range i.size.rows).map i.row,
      (0 :: row).length = 1 + i.size.cols * i.color.channels := by
    intro row hrow
    rw [List.length_cons, h.length_rows row hrow, Nat.add_comm]
  rw [← Array.length_toList, h.toList_filtered, unfiltered, Bytes.length_flatMap_pieces hpieces,
    List.length_map, List.length_range]

theorem passes_header (i : Image) : i.header.passes = [wholePass] := rfl

theorem cols_wholePass (s : Size) : wholePass.cols s = s.cols := by
  simp only [Pass.cols, Pass.count, wholePass]
  omega

theorem lines_wholePass (s : Size) : wholePass.lines s = s.rows := by
  simp only [Pass.lines, Pass.count, wholePass]
  omega

theorem IsPlain.rows_wholePass (h : i.IsPlain) : wholePass.rows i.size = i.size.rows := by
  rw [Pass.rows, cols_wholePass, if_neg (Nat.ne_of_gt h.cols_bounds.1), lines_wholePass]

/-- As many bytes are wanted as are encoded, and all of them are needed. -/
theorem IsPlain.sizes_header (h : i.IsPlain) :
    i.header.streamSize = i.filtered.size ∧ i.header.rowsSize = i.filtered.size := by
  have hsize : i.header.size = i.size := rfl
  constructor
  · rw [Header.streamSize, passes_header, List.map_singleton, List.foldl_cons, List.foldl_nil,
      Nat.zero_add, hsize, lines_wholePass, cols_wholePass, h.rowBytes_eq, h.size_filtered]
  · rw [Header.rowsSize, passes_header, List.map_singleton, List.foldl_cons, List.foldl_nil,
      Nat.zero_add, hsize, h.rows_wholePass, cols_wholePass, h.rowBytes_eq, h.size_filtered]

/-- The rows of an image that has all its pixels in one pass. -/
def passRows (i : Image) : List PassRows :=
  [⟨wholePass, (((List.range i.size.rows).map i.row).map List.toArray).toArray⟩]

/-- **The rows are read back.** -/
theorem IsPlain.readPasses_filtered (h : i.IsPlain) :
    readPasses i.header i.filtered i.header.passes 0 = .ok i.passRows := by
  have hsize : i.header.size = i.size := rfl
  have hrows := readRows_unfiltered i.header.filterDistance #[] [] h.length_rows h.toList_filtered
  rw [List.length_map, List.length_range, List.length_nil] at hrows
  rw [passes_header, readPasses, hsize, cols_wholePass, h.rowBytes_eq, h.rows_wholePass]
  simp only [hrows, readPasses, passRows]

/-- A sample of eight bits is a byte of the row. -/
theorem byteOfSample_rawSample (row : Bytes) (index : Nat) :
    byteOfSample .eight (rawSample .eight row index) = row[index]?.getD 0 := by
  have hraw : rawSample .eight row index = (row[index]?.getD 0).toNat := by
    simp [rawSample, BitDepth.bits]
  rw [hraw, byteOfSample]
  simp [BitDepth.bits]

/-- The pixel in a column is a part of the row. -/
theorem IsPlain.expand_rawSamples (h : i.IsPlain) {row : Bytes} {x : Nat}
    (hx : (x + 1) * i.color.channels ≤ row.size) :
    ({ header := i.header } : Preamble).expand (rawSamples i.header row x) =
      row.slice (x * i.color.channels) i.color.channels := by
  have hdepth : i.header.depth = .eight := h.depth_eq
  have hcolor : i.header.color = i.color := rfl
  have hexpand : ({ header := i.header } : Preamble).expand (rawSamples i.header row x) =
      (rawSamples i.header row x).map (byteOfSample .eight) := by
    unfold Preamble.expand
    dsimp only
    rw [hdepth, hcolor]
    cases hi : i.color with
    | indexed => exact absurd hi h.not_indexed
    | _ => rfl
  rw [Nat.add_one_mul] at hx
  apply List.ext_getElem?
  intro k
  rw [hexpand, rawSamples, hdepth, hcolor, List.map_map, List.getElem?_map, Bytes.getElem?_slice]
  by_cases hk : k < i.color.channels
  · rw [if_pos hk, List.getElem?_range hk, Option.map_some, Function.comp_apply,
      byteOfSample_rawSample, Array.getElem?_eq_getElem (by omega), Option.getD_some]
  · rw [if_neg hk, List.getElem?_eq_none (by rw [List.length_range]; omega), Option.map_none]

theorem rowAt?_passRows {x y : Nat} (hy : y < i.size.rows) :
    rowAt? i.passRows x y = some ((i.row y).toArray, x) := by
  have hcovers : wholePass.covers x y = true := by
    simp only [Pass.covers, wholePass, Nat.mod_one, beq_self_eq_true, Bool.and_self]
  have hrow : ((((List.range i.size.rows).map i.row).map List.toArray).toArray)[y]? =
      some (i.row y).toArray := by
    rw [List.getElem?_toArray, List.getElem?_map, List.getElem?_map, List.getElem?_range hy]
    rfl
  rw [rowAt?, passRows, List.find?_cons_of_pos (by exact hcovers)]
  simp only [wholePass, Nat.div_one, hrow, Option.map_some]

/-- The pixels of a row, one after the other, are the row. -/
theorem IsPlain.foldl_slice (h : i.IsPlain) {y : Nat} (hy : y < i.size.rows) (out : Bytes) :
    (List.range i.size.cols).foldl (fun (out : Bytes) x => out.appendList
        (Bytes.slice (i.row y).toArray (x * i.color.channels) i.color.channels)) out =
      out.appendList (i.row y) := by
  have hsize : (i.row y).toArray.size = i.size.cols * i.color.channels := by
    rw [List.size_toArray, h.length_row hy]
  apply Array.toList_inj.mp
  rw [Bytes.toList_foldl_appendList, Bytes.toList_appendList, Bytes.flatMap_slice, ← hsize,
    ← Array.length_toList, List.take_length]

/-- **The samples are those of the rows.** -/
theorem IsPlain.samples_eq (h : i.IsPlain) :
    ({ header := i.header } : Preamble).samples i.passRows = i.samples := by
  have hrows : ({ header := i.header } : Preamble).samples i.passRows =
      (List.range i.size.rows).foldl (fun (out : Bytes) y => out.appendList (i.row y)) #[] := by
    rw [Preamble.samples]
    refine List.foldl_ext _ _ _ fun out y hy => ?_
    have hy' := List.mem_range.mp hy
    rw [← h.foldl_slice hy']
    refine List.foldl_ext _ _ _ fun out x hx => ?_
    have hle : (x + 1) * i.color.channels ≤ (i.row y).toArray.size := by
      rw [List.size_toArray, h.length_row hy']
      exact Nat.mul_le_mul_right _ (List.mem_range.mp hx)
    rw [rowAt?_passRows hy']
    exact congrArg out.appendList (h.expand_rawSamples hle)
  apply Array.toList_inj.mp
  rw [hrows, Bytes.toList_foldl_appendList, h.flatMap_row]
  rfl

end Image

/-! ## Streams -/

variable {i : Image}

/-- An encoded image, behind the signature. -/
def Image.body (i : Image) : List UInt8 :=
  Chunk.write Chunk.headerTag i.header.toBytes ++
    (i.parts.flatMap (Chunk.write Chunk.imageDataTag) ++ Chunk.write Chunk.imageEndTag [])

/-- The chunks behind the header. -/
def Image.chunks (i : Image) : List Chunk := i.parts.map Chunk.ofPart ++ [Chunk.theEnd]

/-- The chunks an encoded image is cut into. -/
theorem split_body (i : Image) :
    Chunk.split i.body = ⟨.header, i.header.toBytes, .sound⟩ :: i.chunks := by
  have hheader : i.header.toBytes.length < Chunk.lengthLimit :=
    (by decide : 13 < Chunk.lengthLimit)
  have hparts : ∀ part ∈ i.parts, part.length < Chunk.lengthLimit := fun _ => length_store
  rw [Image.body, Chunk.split_write rfl hheader, Chunk.split_parts hparts]
  rfl

/-- Nothing stands between the header and the image. -/
theorem ofChunks_chunks (h : i.IsPlain) :
    Preamble.ofChunks (⟨.header, i.header.toBytes, .sound⟩ :: i.chunks) =
      .ok ({ header := i.header }, i.chunks) := by
  have hcolor : i.header.color ≠ .indexed := h.not_indexed
  have hpalette : ({ header := i.header } : Preamble).lacksPalette = false := by
    simp only [Preamble.lacksPalette, hcolor, decide_false, Bool.false_and]
  have hfirst : Preamble.addAll { header := i.header } i.chunks =
      .ok ({ header := i.header }, i.chunks) := rfl
  rw [Preamble.ofChunks]
  simp only [ne_eq, not_true_eq_false, if_false, Header.ofBytes_toBytes h.isValid_header, hfirst,
    hpalette, Bool.false_eq_true]

/-- Without a palette and without transparency, pixels keep their channels. -/
theorem expandedColor_header (h : i.IsPlain) :
    ({ header := i.header } : Preamble).expandedColor = i.color := by
  have hcolor : i.header.color = i.color := rfl
  unfold Preamble.expandedColor
  dsimp only
  rw [hcolor]
  cases hi : i.color with
  | indexed => exact absurd hi h.not_indexed
  | _ => rfl

/-- The image is read from its chunks. -/
theorem image_chunks (h : i.IsPlain) :
    Opening.image ⟨{ header := i.header }, i.chunks⟩ = .ok i := by
  obtain ⟨hstream, hrows⟩ := h.sizes_header
  have hpositive : 0 < i.filtered.size := by
    rw [h.size_filtered]
    exact Nat.mul_pos h.rows_bounds.1 (by omega)
  have himage : (⟨i.header.size, i.color, .eight, i.samples⟩ : Image) = i := by
    rw [← h.depth_eq]
    rfl
  rw [Opening.image]
  dsimp only
  rw [Image.chunks, checkData_parts, ok_bind, hstream, hrows, Image.parts, inflate_store hpositive, ok_bind,
    h.readPasses_filtered, ok_bind, expandedColor_header h]
  exact congrArg Except.ok ((congrArg (Image.mk _ _ _) h.samples_eq).trans himage)

/-- **What is encoded is decoded**, for rows that are not too wide. -/
theorem decode?_encode (h : i.IsPlain) (hwide : i.color.channels * i.size.cols ≤ 0x4000000) :
    ∃ stream, encode i = .ok stream ∧ decode? stream = some (.ok i) := by
  have hencode : encode i = .ok (signature ++ i.body) := by
    rw [encode, if_neg (Nat.ne_of_gt h.cols_bounds.1), if_neg (Nat.ne_of_gt h.rows_bounds.1)]
    simp only [Image.body, List.append_assoc]
  have hcolor : i.header.color ≠ .indexed := h.not_indexed
  have htorn : ({ header := i.header } : Preamble).isTorn = false := by
    simp only [Preamble.isTorn, hcolor, decide_false, Bool.false_and]
  have hnarrow : ({ header := i.header } : Preamble).isTooWide = false := by
    refine decide_eq_false (Nat.not_lt.mpr ?_)
    rw [Nat.add_zero, Preamble.expandedRowBytes, expandedColor_header h]
    exact hwide
  have hread : Opening.read (signature ++ i.body) = .ok ⟨{ header := i.header }, i.chunks⟩ := by
    have hsignature : ∀ rest, (signature ++ rest).take 8 = signature := fun _ => rfl
    have hrest : ∀ rest, (signature ++ rest).drop 8 = rest := fun _ => rfl
    rw [Opening.read, hsignature, hrest, split_body]
    simp only [ne_eq, not_true_eq_false, if_false, ofChunks_chunks h, ok_bind, hnarrow,
      Bool.false_eq_true]
    rfl
  refine ⟨_, hencode, ?_⟩
  simp only [decode?, hread, htorn, Bool.false_eq_true, if_false, image_chunks h]

end BlitDevice.Png
