import BlitDevice.Bytes
import BlitDevice.Png.Preamble

/-!
# Samples as bytes

* `rawSamples` — the samples of a pixel as they stand in a row.
* `Preamble.expand` — the same pixel in samples of one byte: short samples are scaled up, long ones
  keep their high byte, palette entries are looked up, and transparency becomes an alpha sample.
* `Preamble.expandedColor`, `Preamble.expandedRowBytes` — the channels of an expanded pixel, and the
  bytes of an expanded row.
-/

set_option autoImplicit false

namespace BlitDevice.Png

/-- The sample with a given number in a row. Short samples share a byte, the first one in its high
bits. -/
def rawSample (depth : BitDepth) (row : Bytes) (index : Nat) : Nat :=
  let byte (i : Nat) : Nat := (row[i]?.getD 0).toNat
  if depth = .sixteen then byte (2 * index) * 256 + byte (2 * index + 1)
  else
    let perByte := 8 / depth.bits
    (byte (index / perByte) >>> (8 - depth.bits * (index % perByte + 1))) % (1 <<< depth.bits)

/-- The samples of the pixel in a column. -/
def rawSamples (h : Header) (row : Bytes) (column : Nat) : List Nat :=
  (List.range h.color.channels).map fun k =>
    rawSample h.depth row (column * h.color.channels + k)

/-- A sample as a byte. -/
def byteOfSample (depth : BitDepth) (sample : Nat) : UInt8 :=
  if depth = .sixteen then UInt8.ofNat (sample / 256)
  else UInt8.ofNat (sample * (255 / (1 <<< depth.bits - 1)))

/-- A full alpha sample. -/
def full : UInt8 := 255

namespace Preamble

/-- The entries of the palette; black past its end. -/
def entry (p : Preamble) (index : Nat) : List UInt8 :=
  match ((p.palette.getD []).drop (3 * index)).take 3 with
  | [r, g, b] => [r, g, b]
  | _ => [0, 0, 0]

/-- Alpha of a palette entry. A list longer than the palette does not count. -/
def entryAlpha (p : Preamble) (alphas : List UInt8) (index : Nat) : UInt8 :=
  if 3 * alphas.length ≤ (p.palette.getD []).length then alphas[index]?.getD full else full

/-- The pixel in samples of one byte. -/
def expand (p : Preamble) (raw : List Nat) : List UInt8 :=
  match p.header.color with
  | .indexed =>
    let index := raw.headD 0
    match p.transparency with
    | some (.ofEntries alphas) => p.entry index ++ [p.entryAlpha alphas index]
    | some (.ofColor _) => p.entry index ++ [full]
    | none => p.entry index
  | _ =>
    let bytes := raw.map (byteOfSample p.header.depth)
    match p.transparency with
    | some (.ofColor samples) => bytes ++ [if raw = samples then 0 else full]
    | some (.ofEntries _) => bytes ++ [full]
    | none => bytes

/-- The channels of an expanded pixel. -/
def expandedColor (p : Preamble) : ColorType :=
  match p.header.color, p.transparency with
  | .gray, some _ => .grayAlpha
  | .rgb, some _ | .indexed, some _ => .rgba
  | .indexed, none => .rgb
  | color, _ => color

def expandedRowBytes (p : Preamble) : Nat := p.expandedColor.channels * p.header.size.cols

/-- An expanded row, with palette and transparency, has more bytes than are allowed. -/
def isTooWide (p : Preamble) : Bool := 0x4000000 < p.expandedRowBytes + p.taken

end Preamble

end BlitDevice.Png
