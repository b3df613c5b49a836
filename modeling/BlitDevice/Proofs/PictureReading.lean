import BlitDevice.Proofs.DecodedImages
import BlitDevice.Proofs.Pictures

/-!
# Pictures read on machine words

A picture is read by some reader of streams: the stream is opened, its image is read into a buffer
of the size it says, and the buffer is cut into lines and the lines into pixels.

* `Png.Reader`, `Png.Reader.Sound` — such a reader, and what is asked of it: no palette, samples of
  one byte, and as many of them as fill the buffer. `Png.Reader.own` is the one that is implemented
  here; `Png.Reader.sound_own` says that it is sound.
* `Texture.read` — the procedure, with every product a machine word and every cut inside its bytes.
* `Texture.run_read` — with a sound reader it never stops, and comes to the texture of the image.
* `pictures_read` — so either the stream is refused, or every pixel has its colour.
-/

set_option autoImplicit false

namespace BlitDevice

/-! ## Readers -/

namespace Png

/-- A buffer that an image was read into, and how long its lines are. -/
structure Frame where
  lineSize : Nat
  buffer : Bytes

/-- A stream that was opened: what it says of its image, and how that is read into a buffer. -/
structure Opened where
  size : Size
  color : ColorType
  depth : BitDepth
  read : Bytes → Except DecodeError Frame

/-- Some way to open streams. -/
structure Reader where
  start : List UInt8 → Except DecodeError Opened

namespace Opened

/-- The samples of a line, of one byte each. -/
def lineSize (o : Opened) : Nat := o.size.cols * o.color.channels

/-- The samples of all pixels. -/
def bufferSize (o : Opened) : Nat := o.size.cols * o.size.rows * o.color.channels

/-- The image, once it is read. -/
def image (o : Opened) (frame : Frame) : Image := ⟨o.size, o.color, o.depth, frame.buffer⟩

/-- There are samples of one byte and no palette, both sides are such as a header can say, and an
image that is read fills the buffer, line by line. -/
structure Sound (o : Opened) : Prop where
  depth_eq : o.depth = .eight
  not_indexed : o.color ≠ .indexed
  fits : o.size.FitsPicture
  fills : ∀ buffer frame, buffer.size = o.bufferSize → o.read buffer = .ok frame →
    frame.lineSize = o.lineSize ∧ frame.buffer.size = o.bufferSize

variable {o : Opened} {buffer : Bytes} {frame : Frame}

theorem Sound.isPlain_image (h : o.Sound) (hbuffer : buffer.size = o.bufferSize)
    (hread : o.read buffer = .ok frame) : (o.image frame).IsPlain where
  depth_eq := h.depth_eq
  not_indexed := h.not_indexed
  cols_bounds := h.fits.1
  rows_bounds := h.fits.2
  size_samples := (h.fills buffer frame hbuffer hread).2

end Opened

namespace Reader

/-- Whatever is opened is sound. -/
def Sound (reader : Reader) : Prop := ∀ stream o, reader.start stream = .ok o → o.Sound

/-- What comes of a stream that is read into a fresh buffer. -/
def reading (reader : Reader) (stream : List UInt8) : Reading := do
  let o ← reader.start stream
  let frame ← o.read (Array.replicate o.bufferSize 0)
  return o.image frame

/-- The reader of decoded images. It fails where there is no answer. -/
def own : Reader where
  start stream :=
    match decode? stream with
    | some (.ok i) =>
      .ok ⟨i.size, i.color, i.depth, fun _ => .ok ⟨i.size.cols * i.color.channels, i.samples⟩⟩
    | some (.error e) => .error e
    | none => .error .paletteMissing

theorem reading_own {stream : List UInt8} {r : Reading} (h : decode? stream = some r) :
    own.reading stream = r := by
  cases r with
  | error e => simp only [reading, own, h]; rfl
  | ok i => simp only [reading, own, h]; rfl

/-- **Decoding is sound**, whatever the stream. -/
theorem sound_own : own.Sound := by
  intro stream o h
  unfold own at h
  dsimp only at h
  split at h
  · rename_i i hi
    cases h
    have hplain := isPlain_of_decode? hi
    exact {
      depth_eq := hplain.depth_eq
      not_indexed := hplain.not_indexed
      fits := ⟨hplain.cols_bounds, hplain.rows_bounds⟩
      fills := by
        rintro buffer frame _ hread
        cases hread
        exact ⟨rfl, hplain.size_samples⟩ }
  · cases h
  · cases h

end Reader

end Png

/-! ## Cuts -/

/-- The whole pieces of a length, which must not be zero. -/
def wholePieces (bytes : List UInt8) (length : Nat) : Checked (List (List UInt8)) :=
  if length = 0 then .error .divisor
  else .ok ((List.range (bytes.length / length)).map fun i => (bytes.drop (i * length)).take length)

/-- The first bytes, of which there have to be so many. -/
def firstBytes (bytes : List UInt8) (count : Int) : Checked (List UInt8) :=
  if count ≤ bytes.length then .ok (bytes.take count.toNat) else .error .outOfBounds

/-- A byte that has to be there. -/
def byteAt (bytes : List UInt8) (index : Nat) : Checked UInt8 :=
  match bytes[index]? with
  | some b => .ok b
  | none => .error .outOfBounds

/-- A buffer of so many pieces is cut into slices. -/
theorem wholePieces_toList {b : Bytes} {length n : Nat} (hpos : 0 < length)
    (h : b.size = n * length) : wholePieces b.toList length =
      .ok ((List.range n).map fun i => b.slice (i * length) length) := by
  rw [wholePieces, if_neg (Nat.ne_of_gt hpos), Array.length_toList, h, Nat.mul_div_cancel _ hpos]
  simp only [Bytes.slice_eq_take]

/-- A slice of a slice. -/
theorem take_drop_slice (b : Bytes) {start count i n : Nat} (h : i + n ≤ count) :
    ((b.slice start count).drop i).take n = b.slice (start + i) n := by
  rw [Bytes.slice_eq_take, Bytes.slice_eq_take, List.drop_take, List.take_take, List.drop_drop,
    Nat.min_eq_left (by omega)]

/-- A slice of so many pieces is cut into slices, too. -/
theorem wholePieces_slice {b : Bytes} {start length n : Nat} (hpos : 0 < length)
    (h : start + n * length ≤ b.size) : wholePieces (b.slice start (n * length)) length =
      .ok ((List.range n).map fun i => b.slice (start + i * length) length) := by
  have hlength : (b.slice start (n * length)).length = n * length := by
    rw [Bytes.length_slice]
    omega
  rw [wholePieces, if_neg (Nat.ne_of_gt hpos), hlength, Nat.mul_div_cancel _ hpos]
  refine congrArg Except.ok (List.map_congr_left fun i hi => ?_)
  apply take_drop_slice
  rw [← Nat.add_one_mul]
  exact Nat.mul_le_mul_right _ (List.mem_range.mp hi)

theorem firstBytes_eq {bytes : List UInt8} {n : Nat} (h : bytes.length = n) :
    firstBytes bytes n = .ok bytes := by
  rw [firstBytes, if_pos (by omega), Int.toNat_natCast, ← h, List.take_length]

/-! ## Colours -/

/-- The colour that samples stand for. Without alpha it is opaque. -/
inductive Png.Shows : Png.ColorType → List UInt8 → List UInt8 → Prop where
  | gray (g : UInt8) : Shows .gray [g] [g, g, g, 255]
  | grayAlpha (g a : UInt8) : Shows .grayAlpha [g, a] [g, g, g, a]
  | rgb (r g b : UInt8) : Shows .rgb [r, g, b] [r, g, b, 255]
  | rgba (r g b a : UInt8) : Shows .rgba [r, g, b, a] [r, g, b, a]

theorem Png.shows_expand {color : ColorType} {expand : List UInt8 → List UInt8}
    (hexpand : color.toRgba? = some expand) {px : List UInt8} (hpx : px.length = color.channels) :
    Shows color px (expand px) := by
  cases color with
  | gray =>
    cases hexpand
    obtain ⟨g, rfl⟩ := List.length_eq_one_iff.mp hpx
    exact .gray g
  | grayAlpha =>
    cases hexpand
    obtain ⟨g, a, rfl⟩ := List.length_eq_two.mp hpx
    exact .grayAlpha g a
  | rgb =>
    cases hexpand
    obtain ⟨r, g, b, rfl⟩ := List.length_eq_three.mp hpx
    exact .rgb r g b
  | rgba =>
    cases hexpand
    obtain ⟨r, g, b, a, rfl⟩ := exists_bytes hpx
    exact .rgba r g b a
  | indexed => cases hexpand

/-! ## The procedure -/

namespace Texture

open InPlace Png

/-- The colour of a pixel, from its samples. -/
def colorOfSamples (color : ColorType) (px : List UInt8) : InPlace Bytes (List UInt8) :=
  match color with
  | .gray => checked do return [← byteAt px 0, ← byteAt px 0, ← byteAt px 0, 0xff]
  | .grayAlpha => checked do return [← byteAt px 0, ← byteAt px 0, ← byteAt px 0, ← byteAt px 1]
  | .rgb => checked do return [← byteAt px 0, ← byteAt px 1, ← byteAt px 2, 0xff]
  | .rgba => checked do return [← byteAt px 0, ← byteAt px 1, ← byteAt px 2, ← byteAt px 3]
  | .indexed => refuse (.unsupportedPng "palette was not expanded")

/-- Adds the colour of a pixel. -/
def addPixel (color : ColorType) (px : List UInt8) : InPlace Bytes Unit := do
  let rgba ← colorOfSamples color px
  change fun b => b.appendList rgba

/-- Adds the colours of a line. -/
def addLine (o : Opened) (line : List UInt8) : InPlace Bytes Unit := do
  let length ← checked (Word.u64.hold (o.size.cols * o.color.channels))
  let line ← checked (firstBytes line length)
  let pixels ← checked (wholePieces line o.color.channels)
  forM pixels (addPixel o.color)

/-- A step of decoding. -/
def decoding {α : Type} (r : Except DecodeError α) : InPlace Bytes α :=
  ofExcept (match r with | .ok a => .ok a | .error cause => .error (.pngDecode cause))

/-- Reads a picture. The colours are put one after the other, and make a texture in the end. -/
def read (reader : Reader) (stream : List UInt8) (name : String) : InPlace Bytes Texture := do
  let o ← decoding (reader.start stream)
  if o.depth ≠ .eight then
    refuse (.unsupportedPng s!"bit depth {o.depth.name} after expansion")
  else do
    let pixels ← checked (Word.u64.hold (o.size.cols * o.size.rows))
    let samples ← checked (Word.u64.hold (pixels * o.color.channels))
    let frame ← decoding (o.read (Array.replicate samples.toNat 0))
    let _ ← checked (Word.u64.hold (pixels * 4))
    let lines ← checked (wholePieces frame.buffer.toList frame.lineSize)
    forM (lines.take o.size.rows) (addLine o)
    let rgba ← state
    ofExcept (create { size := o.size, format := .rgba, name } (some rgba))

section run

variable {o : Opened} {frame : Frame} {expand : List UInt8 → List UInt8} {px : List UInt8}
  {b : Bytes}

/-- The colour that is put for samples is the one they stand for. -/
theorem run_colorOfSamples {color : ColorType} {rgba : List UInt8} (h : Shows color px rgba) :
    (colorOfSamples color px).run b = .ok (.ok rgba, b) := by
  cases h with
  | gray g => rfl
  | grayAlpha g a => rfl
  | rgb r g b => rfl
  | rgba r g b a => rfl

theorem run_addPixel {color : ColorType} (hexpand : color.toRgba? = some expand)
    (hpx : px.length = color.channels) :
    (addPixel color px).run b = .ok (.ok (), b.appendList (expand px)) := by
  rw [addPixel, run_bind, run_colorOfSamples (shows_expand hexpand hpx), andThen_ok, run_change]

/-- The products of a picture's sides are 64-bit numbers. -/
theorem products_lt (h : o.Sound) :
    o.bufferSize < 2 ^ 64 ∧ o.size.cols * o.size.rows * 4 < 2 ^ 64 := by
  have hchannels : o.color.channels ≤ 4 := by
    cases o.color <;> decide
  have hbytes : o.size.cols * o.size.rows * 4 < 2 ^ 64 := h.fits.bytes_lt
  exact ⟨(Nat.mul_le_mul_left _ hchannels).trans_lt hbytes, hbytes⟩

/-- What a line adds: its pixels, left to right. -/
def withLine (i : Png.Image) (expand : List UInt8 → List UInt8) (b : Bytes) (y : Nat) : Bytes :=
  (List.range i.size.cols).foldl
    (fun (b : Bytes) x => b.appendList (expand (i.pixel (i.size.cols * y + x)))) b

/-- Every line lies in the buffer. -/
theorem line_le (hframe : frame.buffer.size = o.bufferSize) {y : Nat} (hy : y < o.size.rows) :
    y * o.lineSize + o.lineSize ≤ frame.buffer.size := by
  rw [hframe, Opened.bufferSize, Nat.mul_comm o.size.cols, Nat.mul_assoc, ← Nat.add_one_mul]
  exact Nat.mul_le_mul_right _ hy

/-- A line is cut into its pixels. -/
theorem wholePieces_line (hframe : frame.buffer.size = o.bufferSize) {y : Nat}
    (hy : y < o.size.rows) :
    wholePieces (frame.buffer.slice (y * o.lineSize) o.lineSize) o.color.channels =
      .ok ((List.range o.size.cols).map fun x =>
        (o.image frame).pixel (o.size.cols * y + x)) := by
  have hline := line_le hframe hy
  rw [Opened.lineSize] at hline ⊢
  rw [wholePieces_slice o.color.channels_pos hline]
  refine congrArg Except.ok (List.map_congr_left fun x _ => ?_)
  have hstart : y * (o.size.cols * o.color.channels) + x * o.color.channels =
      (o.size.cols * y + x) * o.color.channels := by ring
  rw [hstart]
  rfl

theorem length_pixel_image (hframe : frame.buffer.size = o.bufferSize) {k : Nat}
    (hk : k < o.size.cols * o.size.rows) :
    ((o.image frame).pixel k).length = o.color.channels := by
  have hle : (k + 1) * o.color.channels ≤ frame.buffer.size := by
    rw [hframe]
    exact Nat.mul_le_mul_right _ hk
  rw [Nat.add_one_mul] at hle
  rw [Png.Image.pixel, Bytes.length_slice]
  simp only [Opened.image]
  omega

/-- **A line is added**, pixel by pixel. -/
theorem run_addLine (h : o.Sound) (hframe : frame.buffer.size = o.bufferSize)
    (hexpand : o.color.toRgba? = some expand) {y : Nat} (hy : y < o.size.rows) :
    (addLine o (frame.buffer.slice (y * o.lineSize) o.lineSize)).run b =
      .ok (.ok (), withLine (o.image frame) expand b y) := by
  have hline := line_le hframe hy
  have hlength : (frame.buffer.slice (y * o.lineSize) o.lineSize).length = o.lineSize := by
    rw [Bytes.length_slice]
    omega
  have hproduct : Word.u64.hold (o.size.cols * o.color.channels) = .ok (o.lineSize : Int) := by
    rw [← Int.natCast_mul]
    exact Word.hold_natCast (by have := (products_lt h).1; rw [Opened.lineSize] at hline; omega)
  have hround : ∀ x ∈ List.range o.size.cols, ∀ s : Bytes,
      (addPixel o.color ((o.image frame).pixel (o.size.cols * y + x))).run s =
        .ok (.ok (), s.appendList (expand ((o.image frame).pixel (o.size.cols * y + x)))) := by
    intro x hx s
    have hk : o.size.cols * y + x < o.size.cols * o.size.rows := by
      have hrow : o.size.cols * (y + 1) ≤ o.size.cols * o.size.rows := Nat.mul_le_mul_left _ hy
      rw [Nat.mul_add_one] at hrow
      have hx' := List.mem_range.mp hx
      omega
    exact run_addPixel hexpand (length_pixel_image hframe hk)
  rw [addLine, run_bind, run_checked hproduct, andThen_ok, run_bind,
    run_checked (firstBytes_eq hlength), andThen_ok, run_bind,
    run_checked (wholePieces_line hframe hy), andThen_ok, List.forM_map,
    run_forM_of_forall hround]
  rfl

/-- Line by line, all pixels are added as they are counted. -/
theorem foldl_withLine (i : Png.Image) (expand : List UInt8 → List UInt8) :
    (List.range i.size.rows).foldl (withLine i expand) #[] =
      (List.range (i.size.cols * i.size.rows)).foldl
        (fun (b : Bytes) k => b.appendList (expand (i.pixel k))) #[] := by
  rw [← Window.map_number_texels, List.foldl_map, Window.texels_covering,
    List.foldl_flatMap]
  simp only [List.foldl_map]
  rfl

theorem exists_toRgba? {color : ColorType} (h : color ≠ .indexed) :
    ∃ expand, color.toRgba? = some expand := by
  cases color with
  | indexed => exact absurd rfl h
  | _ => exact ⟨_, rfl⟩

/-- So a texture of an image is made line by line. -/
theorem ofImage_eq_create {i : Png.Image} (hdepth : i.depth = .eight)
    (hexpand : i.color.toRgba? = some expand) (name : String) :
    ofImage i name = create { size := i.size, format := .rgba, name }
      (some ((List.range i.size.rows).foldl (withLine i expand) #[])) := by
  rw [ofImage, if_neg (not_not.mpr hdepth), hexpand, foldl_withLine]

/-- The lines of a frame are added, and make the texture of its image. -/
theorem run_addLines (h : o.Sound) (name : String) {buffer : Bytes}
    (hbuffer : buffer.size = o.bufferSize) (hread : o.read buffer = .ok frame) :
    ∃ lines rgba, wholePieces frame.buffer.toList frame.lineSize = .ok lines ∧
      (forM (lines.take o.size.rows) (addLine o)).run #[] = .ok (.ok (), rgba) ∧
      create { size := o.size, format := .rgba, name } (some rgba) =
        ofImage (o.image frame) name := by
  obtain ⟨hlineSize, hframe⟩ := h.fills buffer frame hbuffer hread
  obtain ⟨expand, hexpand⟩ := exists_toRgba? h.not_indexed
  have hpos : 0 < o.lineSize := Nat.mul_pos h.fits.1.1 o.color.channels_pos
  have hsize : frame.buffer.size = o.size.rows * o.lineSize := by
    rw [hframe, Opened.bufferSize, Opened.lineSize]
    ring
  have hround : ∀ y ∈ List.range o.size.rows, ∀ s : Bytes,
      (addLine o (frame.buffer.slice (y * o.lineSize) o.lineSize)).run s =
        .ok (.ok (), withLine (o.image frame) expand s y) := by
    intro y hy s
    exact run_addLine h hframe hexpand (List.mem_range.mp hy)
  refine ⟨(List.range o.size.rows).map fun y => frame.buffer.slice (y * o.lineSize) o.lineSize,
    (List.range o.size.rows).foldl (withLine (o.image frame) expand) #[], ?_, ?_, ?_⟩
  · rw [hlineSize, wholePieces_toList hpos hsize]
  · rw [List.take_of_length_le (by rw [List.length_map, List.length_range]), List.forM_map]
    exact run_forM_of_forall hround #[]
  · exact (ofImage_eq_create (i := o.image frame) h.depth_eq hexpand name).symm

theorem run_decoding_ok {α : Type} (a : α) (s : Bytes) :
    (decoding (.ok a)).run s = .ok (.ok a, s) := rfl

theorem run_decoding_error {α : Type} (cause : DecodeError) (s : Bytes) :
    (decoding (.error cause : Except DecodeError α)).run s =
      .ok (.error (.pngDecode cause), s) := rfl

/-- **What is opened soundly is read**, and comes to the texture of its image. -/
theorem run_read_opened {reader : Reader} {stream : List UInt8} (name : String)
    (hopened : reader.start stream = .ok o) (h : o.Sound) :
    ∃ rgba, (read reader stream name).run #[] =
      .ok (ofReading (reader.reading stream) name, rgba) := by
  obtain ⟨hbuffer, hbytes⟩ := products_lt h
  have hpixels : Word.u64.hold (o.size.cols * o.size.rows) =
      .ok ((o.size.cols * o.size.rows : Nat) : Int) := by
    rw [← Int.natCast_mul]
    exact Word.hold_natCast (by omega)
  have hsamples : Word.u64.hold (((o.size.cols * o.size.rows : Nat) : Int) * o.color.channels) =
      .ok (o.bufferSize : Int) := by
    rw [← Int.natCast_mul]
    exact Word.hold_natCast hbuffer
  have hcapacity : Word.u64.hold (((o.size.cols * o.size.rows : Nat) : Int) * 4) =
      .ok ((o.size.cols * o.size.rows * 4 : Nat) : Int) := by
    show Word.u64.hold (((o.size.cols * o.size.rows : Nat) : Int) * (4 : Nat)) = _
    rw [← Int.natCast_mul]
    exact Word.hold_natCast hbytes
  rw [read, run_bind, hopened, run_decoding_ok, andThen_ok, if_neg (not_not.mpr h.depth_eq),
    run_bind, run_checked hpixels, andThen_ok, run_bind, run_checked hsamples, andThen_ok, run_bind,
    Int.toNat_natCast]
  cases hread : o.read (Array.replicate o.bufferSize 0) with
  | error cause =>
    refine ⟨#[], ?_⟩
    rw [run_decoding_error, andThen_error, Reader.reading, hopened, ok_bind, hread]
    rfl
  | ok frame =>
    obtain ⟨lines, rgba, hlines, hrun, hcreate⟩ :=
      run_addLines h name (Array.size_replicate ..) hread
    refine ⟨rgba, ?_⟩
    rw [run_decoding_ok, andThen_ok, run_bind, run_checked hcapacity, andThen_ok, run_bind,
      run_checked hlines, andThen_ok, run_bind, hrun, andThen_ok, run_bind, run_state, andThen_ok,
      run_ofExcept, hcreate, Reader.reading, hopened, ok_bind, hread]
    rfl

/-- **A picture is read without a stop** by a sound reader. -/
theorem run_read {reader : Reader} (hreader : reader.Sound) (stream : List UInt8) (name : String) :
    ∃ rgba, (read reader stream name).run #[] =
      .ok (ofReading (reader.reading stream) name, rgba) := by
  cases hopened : reader.start stream with
  | error cause =>
    refine ⟨#[], ?_⟩
    rw [read, run_bind, hopened, run_decoding_error, andThen_error, Reader.reading, hopened]
    rfl
  | ok o => exact run_read_opened name hopened (hreader stream o hopened)

end run

end Texture

/-! ## Pictures -/

/-- The texture of an image that was read soundly has its colours. -/
theorem Texture.ofImage_shows {o : Png.Opened} {frame : Png.Frame} {buffer : Bytes} (h : o.Sound)
    (hbuffer : buffer.size = o.bufferSize) (hread : o.read buffer = .ok frame) (name : String) :
    ∃ t, ofImage (o.image frame) name = .ok t ∧ t.config = ⟨o.size, .rgba, 1, .static, name⟩ ∧
      ∀ p, t.contains p = true →
        Png.Shows o.color ((o.image frame).pixel (o.size.cols * p.y + p.x)) (t.pixel p) := by
  obtain ⟨expand, hexpand⟩ := exists_toRgba? h.not_indexed
  obtain ⟨t, ht, hconfig, hpixels⟩ := ofImage_eq_ok (h.isPlain_image hbuffer hread) hexpand name
  refine ⟨t, ht, hconfig, fun p hp => ?_⟩
  have hsize : t.size = o.size := congrArg TextureConfig.size hconfig
  have hnumber := number_lt hp
  rw [hsize] at hnumber
  rw [hpixels p hp]
  exact Png.shows_expand hexpand (length_pixel_image (h.fills buffer frame hbuffer hread).2 hnumber)

/-- **Pictures are read, or their streams are refused.** With a sound reader, reading never stops:
no product leaves the 64-bit words, and no line or pixel is cut out of bytes that are not there.
What it comes to is refused for the stream alone, or it is a texture of the size that the stream
says, with one level and the name it was given, in which every pixel is the colour of its samples.

Decoding as it is implemented here is sound, whatever the stream, and what is read so is what
`Texture.ofPng?` gives. -/
theorem pictures_read (reader : Png.Reader) (hreader : reader.Sound) (stream : List UInt8)
    (name : String) :
    (∃ r rgba, (Texture.read reader stream name).run #[] = .ok (r, rgba) ∧
      r = Texture.ofReading (reader.reading stream) name ∧
      ((∃ cause, reader.reading stream = .error cause ∧ r = .error (.pngDecode cause)) ∨
        ∃ o frame t, reader.start stream = .ok o ∧
          o.read (Array.replicate o.bufferSize 0) = .ok frame ∧ r = .ok t ∧
          t.config = ⟨o.size, .rgba, 1, .static, name⟩ ∧
          ∀ p, t.contains p = true → Png.Shows o.color
            (frame.buffer.slice ((o.size.cols * p.y + p.x) * o.color.channels) o.color.channels)
            (t.pixel p))) ∧
    (∀ o, reader.start stream = .ok o →
      o.size.cols * o.size.rows * o.color.channels < 2 ^ 64 ∧
        o.size.cols * o.size.rows * 4 < 2 ^ 64) ∧
    Png.Reader.own.Sound ∧
    ∀ r, Texture.ofPng? stream name = some r →
      ∃ rgba, (Texture.read .own stream name).run #[] = .ok (r, rgba) := by
  refine ⟨?_, fun o ho => Texture.products_lt (hreader stream o ho), Png.Reader.sound_own, ?_⟩
  · obtain ⟨rgba, hrun⟩ := Texture.run_read hreader stream name
    refine ⟨_, rgba, hrun, rfl, ?_⟩
    cases hreading : reader.reading stream with
    | error cause => exact .inl ⟨cause, rfl, rfl⟩
    | ok image =>
      obtain ⟨o, ho, hread⟩ := bind_eq_ok.mp hreading
      obtain ⟨frame, hframe, himage⟩ := bind_eq_ok.mp hread
      obtain rfl := Except.ok.inj himage
      obtain ⟨t, ht, hconfig, hpixels⟩ :=
        Texture.ofImage_shows (hreader stream o ho) (Array.size_replicate ..) hframe name
      exact .inr ⟨o, frame, t, ho, hframe, ht, hconfig, hpixels⟩
  · intro r hr
    obtain ⟨picture, hdecode, rfl⟩ := Option.map_eq_some_iff.mp hr
    obtain ⟨rgba, hrun⟩ := Texture.run_read Png.Reader.sound_own stream name
    rw [Png.Reader.reading_own hdecode] at hrun
    exact ⟨rgba, hrun⟩

/-- What is written down is read on words. -/
theorem twoPixels_read :
    ∃ stream u rgba, twoPixels.toPng = .ok stream ∧
      (Texture.read .own stream "two").run #[] = .ok (.ok u, rgba) ∧
      u.config = ⟨twoPixels.size, .rgba, 1, .static, "two"⟩ ∧
      u.pixel ⟨0, 0⟩ = [0, 0, 255, 255] := by
  obtain ⟨stream, u, hwrite, hofPng, hu⟩ :=
    own_pictures_read_back (t := twoPixels) (by decide) (by decide) (by decide) "two"
  obtain ⟨_, _, _, hown⟩ := pictures_read .own Png.Reader.sound_own stream "two"
  obtain ⟨rgba, hrun⟩ := hown _ hofPng
  refine ⟨stream, u, rgba, hwrite, hrun, hu.config_eq, ?_⟩
  exact Option.some.inj ((hu.pictured?_eq ⟨0, 0⟩ rfl).symm.trans (by decide))

end BlitDevice
