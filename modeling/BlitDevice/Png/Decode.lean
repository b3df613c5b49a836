import BlitDevice.Png.Image
import BlitDevice.Png.ImageData
import BlitDevice.Png.Samples

/-!
# Decoding

* `Preamble.samples` — every pixel, expanded, row by row.
* `Opening` — a stream read as far as its image; `Opening.image` reads the image, and
  `Opening.checkFirstRow` says whether its first row is there.
* `decode?` — the image of a stream, in samples of one byte.
-/

set_option autoImplicit false

namespace BlitDevice.Png

/-- The eight bytes every stream starts with. -/
def signature : List UInt8 := [137, 80, 78, 71, 13, 10, 26, 10]

/-- Every pixel, expanded. -/
def Preamble.samples (p : Preamble) (passes : List PassRows) : Bytes :=
  (List.range p.header.size.rows).foldl
    (fun out y =>
      (List.range p.header.size.cols).foldl
        (fun out x =>
          match rowAt? passes x y with
          | some (row, column) => out.appendList (p.expand (rawSamples p.header row column))
          | none => out)
        out)
    #[]

/-- A stream whose image comes next. -/
structure Opening where
  preamble : Preamble
  /-- The chunks from the first one of the image on. -/
  chunks : List Chunk

namespace Opening

/-- Reads a stream as far as its image. -/
def read (stream : List UInt8) : Except DecodeError Opening := do
  if stream.take 8 ≠ signature then .error .badSignature
  let (preamble, chunks) ← Preamble.ofChunks (Chunk.split (stream.drop 8))
  if preamble.isTooWide then .error .rowTooLong
  return { preamble, chunks }

/-- Whether the first row is there, after a filter. It is given out before anything is known of what
follows. -/
def checkFirstRow (o : Opening) : Except DecodeError Unit := do
  let header := o.preamble.header
  let data ← inflate header.firstRowSize (.ofWanted header.streamSize) o.chunks
  let _ ← readFilter data 0

/-- Reads the image. -/
def image (o : Opening) : Except DecodeError Image := do
  let header := o.preamble.header
  checkData o.chunks
  let data ← inflate header.rowsSize (.ofWanted header.streamSize) o.chunks
  let passes ← readPasses header data header.passes 0
  return {
    size := header.size
    color := o.preamble.expandedColor
    depth := .eight
    samples := o.preamble.samples passes }

end Opening

/-- What comes of decoding. -/
abbrev Reading := Except DecodeError Image

instance : DecidableEq Reading
  | .ok a, .ok b => decidable_of_iff (a = b) ⟨congrArg _, Except.ok.inj⟩
  | .error a, .error b => decidable_of_iff (a = b) ⟨congrArg _, Except.error.inj⟩
  | .ok _, .error _ => .isFalse nofun
  | .error _, .ok _ => .isFalse nofun

/-- The image of a stream. There is no answer where the first row would have to be looked up in a
palette that ends inside an entry. -/
def decode? (stream : List UInt8) : Option Reading :=
  match Opening.read stream with
  | .error e => some (.error e)
  | .ok o =>
    if o.preamble.isTorn then
      match o.checkFirstRow with
      | .error e => some (.error e)
      | .ok () => none
    else some o.image

end BlitDevice.Png
