import BlitDevice.Png.Chunk
import BlitDevice.Png.Header

/-!
# What stands before the image data

* `Transparency` — which pixels are transparent: those of one colour, or by palette entry.
* `Preamble` — header, palette and transparency.
* `Preamble.ofChunks` — reads them off the chunks before the image. Most of what is wrong with a
  chunk that is not critical is passed over. Not so: a background that comes before the palette it
  points into, code points that are not valid, a frame that is not the whole image, and the data of
  a frame, for which it is too early.
-/

set_option autoImplicit false

namespace BlitDevice.Png

/-- Which pixels are transparent. -/
inductive Transparency where
  /-- The pixels with these samples. -/
  | ofColor (samples : List Nat)
  /-- By palette entry, opaque after the last one given. -/
  | ofEntries (alphas : List UInt8)
  deriving DecidableEq, Repr

namespace Transparency

/-- Pairs of bytes as numbers, the high byte first. -/
def pairs : List UInt8 → List Nat
  | high :: low :: rest => (high.toNat * 256 + low.toNat) :: pairs rest
  | _ => []

/-- The transparent colour: two bytes for every sample, of which short samples use the second. With
full samples the colour has to end where the data does, or no pixel has it. -/
def color (h : Header) (data : List UInt8) : Transparency :=
  if h.depth ≠ .sixteen then ofColor (((pairs data).take h.color.channels).map (· % 256))
  else if data.length = 2 * h.color.channels then ofColor (pairs data)
  else ofColor []

end Transparency

structure Preamble where
  header : Header
  palette : Option (List UInt8) := none
  transparency : Option Transparency := none
  /-- Code points of the colours were given. -/
  codePoints : Bool := false
  /-- So many numbers of frames are used up. -/
  frameNumbers : Nat := 0
  /-- So many bytes of palette and transparency were taken in. -/
  taken : Nat := 0
  deriving DecidableEq, Repr

namespace Preamble

/-- The image needs a palette and has none yet. -/
def lacksPalette (p : Preamble) : Bool := p.header.color = .indexed && p.palette.isNone

/-- The palette ends inside an entry. -/
def isTorn (p : Preamble) : Bool :=
  p.header.color = .indexed && (p.palette.getD []).length % 3 ≠ 0

/-- What a transparency chunk says; what it cannot say is passed over. -/
def transparency? (p : Preamble) (data : List UInt8) : Option Transparency :=
  match p.header.color with
  | .gray | .rgb =>
    if 2 * p.header.color.channels ≤ data.length then some (.color p.header data) else none
  | .indexed => if p.palette.isSome then some (.ofEntries data) else none
  | .grayAlpha | .rgba => none

/-- Code points are for colours that need no matrix, and say whether they use the full range. -/
def areCodePoints : List UInt8 → Bool
  | [_, _, matrix, range] => matrix == 0 && range ≤ 1
  | _ => false

/-- A frame before the image data has the size of the image, and a number that continues. -/
def isFrameControl (p : Preamble) : List UInt8 → Bool
  | n0 :: n1 :: n2 :: n3 :: w0 :: w1 :: w2 :: w3 :: h0 :: h1 :: h2 :: h3 ::
      x0 :: x1 :: x2 :: x3 :: y0 :: y1 :: y2 :: y3 :: _ :: _ :: _ :: _ :: dispose :: blend :: _ =>
    wordNat n0 n1 n2 n3 == p.frameNumbers &&
      wordOf w0 w1 w2 w3 == p.header.size.width && wordOf h0 h1 h2 h3 == p.header.size.height &&
      [x0, x1, x2, x3, y0, y1, y2, y3].all (· == 0) && dispose ≤ 2 && blend ≤ 1
  | _ => false

/-- Takes in the data of a sound chunk. -/
def addData (p : Preamble) (kind : ChunkKind) (data : List UInt8) : Except DecodeError Preamble :=
  match kind with
  | .header => .error .chunkRepeated
  | .palette =>
    if p.palette.isSome then .error .chunkRepeated
    else .ok { p with palette := some data, taken := p.taken + data.length }
  | .transparency =>
    match p.transparency with
    | some _ => .ok p
    | none =>
      .ok { p with transparency := p.transparency? data, taken := p.taken + data.length }
  | .background => if p.lacksPalette then .error .paletteMissing else .ok p
  | .codePoints =>
    if p.palette.isSome || p.codePoints then .ok p
    else if areCodePoints data then .ok { p with codePoints := true }
    else .error .codePoints
  | .frameControl =>
    if p.isFrameControl data then .ok { p with frameNumbers := p.frameNumbers + 1 }
    else .error .frameControl
  | .frameData => .error .frameControl
  | .imageData | .imageEnd => .error .imageMissing
  | .other critical => if critical then .error .criticalChunk else .ok p

/-- Takes in one chunk. -/
def add (p : Preamble) (c : Chunk) : Except DecodeError Preamble :=
  if c.ending = .cut ∨ c.ending = .bare ∨ c.ending = .overlong then .error .endOfData
  else if !c.kind.fits c.data.length then
    if c.kind.maySkipMisfit then .ok p else .error .chunkLength
  else if c.ending = .damaged then
    if c.kind.maySkipDamaged then .ok p else .error .chunkChecksum
  else p.addData c.kind c.data

/-- Takes in the chunks before the first one of the image, and gives that one and all after it. -/
def addAll (p : Preamble) : List Chunk → Except DecodeError (Preamble × List Chunk)
  | [] => .error .endOfData
  | c :: cs =>
    if c.kind = .imageData then .ok (p, c :: cs)
    else
      match p.add c with
      | .error e => .error e
      | .ok p => addAll p cs

/-- Reads the chunks before the image. The first one has to be the header. -/
def ofChunks : List Chunk → Except DecodeError (Preamble × List Chunk)
  | [] => .error .endOfData
  | c :: cs =>
    if c.kind ≠ .header then .error .chunkBeforeHeader
    else if c.ending ≠ .sound then .error .chunkChecksum
    else
      match Header.ofBytes c.data with
      | .error e => .error e
      | .ok header =>
        match addAll { header } cs with
        | .error e => .error e
        | .ok (p, rest) => if p.lacksPalette then .error .paletteMissing else .ok (p, rest)

end Preamble

end BlitDevice.Png
