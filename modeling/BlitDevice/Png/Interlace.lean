import BlitDevice.Png.Header
import BlitDevice.Png.Scanline

/-!
# Interlacing

* `Pass` — the pixels at regular steps; a pass stands in a stream as an image of its own.
* `Header.passes` — all pixels in one pass, or the seven passes of an interlaced image.
* `Header.streamSize`, `Header.rowsSize`, `Header.firstRowSize` — the bytes wanted for all passes,
  and how many of them all rows and the first one need.
* `readPasses` — the rows of each pass; a pass without pixels has no rows.
* `rowAt?` — the row a pixel is in, and its column there.
-/

set_option autoImplicit false

namespace BlitDevice.Png

/-- The pixels `left, left + across, …` of the rows `top, top + down, …`. -/
structure Pass where
  left : Nat
  top : Nat
  across : Nat
  down : Nat
  deriving DecidableEq, Repr

/-- Every pixel. -/
def wholePass : Pass := ⟨0, 0, 1, 1⟩

/-- The passes of an interlaced image. -/
def interlacedPasses : List Pass :=
  [⟨0, 0, 8, 8⟩, ⟨4, 0, 8, 8⟩, ⟨0, 4, 4, 8⟩, ⟨2, 0, 4, 4⟩, ⟨0, 2, 2, 4⟩, ⟨1, 0, 2, 2⟩, ⟨0, 1, 1, 2⟩]

def Header.passes (h : Header) : List Pass := if h.interlaced then interlacedPasses else [wholePass]

namespace Pass

/-- How many of `0, …, size - 1` are `start`, `start + step`, …. -/
def count (size start step : Nat) : Nat := (size - start + step - 1) / step

def cols (p : Pass) (s : Size) : Nat := count s.cols p.left p.across

/-- The rows of the image the pass goes through, also if it has no pixels there. -/
def lines (p : Pass) (s : Size) : Nat := count s.rows p.top p.down

def rows (p : Pass) (s : Size) : Nat := if p.cols s = 0 then 0 else p.lines s

def covers (p : Pass) (x y : Nat) : Bool := x % p.across == p.left && y % p.down == p.top

end Pass

/-- The bytes wanted of a stream: every line of a pass has the byte of its filter, even one without
pixels. -/
def Header.streamSize (h : Header) : Nat :=
  (h.passes.map fun p => p.lines h.size * (1 + h.rowBytes (p.cols h.size))).foldl (· + ·) 0

/-- The bytes of the rows that have pixels. -/
def Header.rowsSize (h : Header) : Nat :=
  (h.passes.map fun p => p.rows h.size * (1 + h.rowBytes (p.cols h.size))).foldl (· + ·) 0

/-- The bytes of the first row, which is one of the first pass. -/
def Header.firstRowSize (h : Header) : Nat :=
  1 + h.rowBytes ((h.passes.headD wholePass).cols h.size)

/-- The rows of one pass. -/
structure PassRows where
  pass : Pass
  rows : Array Bytes

/-- Bytes from one pixel to the next, one at least. -/
def Header.filterDistance (h : Header) : Nat := max 1 (h.bitsPerPixel / 8)

/-- Reads the rows of passes from `start` on. -/
def readPasses (h : Header) (data : Bytes) :
    List Pass → Nat → Except DecodeError (List PassRows)
  | [], _ => .ok []
  | p :: ps, start =>
    let rowBytes := h.rowBytes (p.cols h.size)
    let rows := p.rows h.size
    match readRows rowBytes h.filterDistance data rows start #[] with
    | .error e => .error e
    | .ok lines =>
      match readPasses h data ps (start + rows * (1 + rowBytes)) with
      | .error e => .error e
      | .ok rest => .ok (⟨p, lines.toArray⟩ :: rest)

/-- The row a pixel is in, and its column there. -/
def rowAt? (passes : List PassRows) (x y : Nat) : Option (Bytes × Nat) :=
  match passes.find? fun r => r.pass.covers x y with
  | none => none
  | some r => (r.rows[y / r.pass.down]?).map fun row => (row, x / r.pass.across)

end BlitDevice.Png
