import BlitDevice.Matrix
import BlitDevice.Memory

/-!
# Operations from surface to surface

* `Memory.copyTexture` — all of a texture onto another of its size and format.
* `Memory.copyRegion` — a part of a texture to a place in another, not scaled.
* `Memory.stageTexture` — level 0 of a texture into a stage surface of its size and format.
* `Memory.blitToTexture`, `Memory.blitToView` — a blit into a texture and into a view's output.
* `Memory.clear` — one colour all over a texture.

Each gives the memory afterwards and what was told, or the reason why nothing was done.
-/

set_option autoImplicit false

namespace BlitDevice.Memory

/-- Blits into a texture. -/
def blitToTexture (m : Memory) (dst src : TextureId) (srcRect dstRect : Rect) :
    Except Error (Memory × Log) := do
  let (t, log) ← blit (m.texture src) (m.texture dst) srcRect dstRect
  return (m.setTexture dst t, log)

/-- Blits into the output of a view. -/
def blitToView (m : Memory) (dst : ViewId) (src : TextureId) (srcRect dstRect : Rect) :
    Except Error (Memory × Log) := do
  let (v, log) ← (m.view dst).blitFrom (m.texture src) srcRect dstRect
  return (m.setView dst v, log)

/-- Copying all of a surface needs the same size and the same format. -/
def checkAlike (src dst : Texture) : Except Error Unit :=
  if src.size ≠ dst.size then .error (.sizeMismatch src.size dst.size)
  else if src.format ≠ dst.format then .error (.unsupportedFormatPair src.format dst.format)
  else .ok ()

def copyTexture (m : Memory) (dst src : TextureId) : Except Error (Memory × Log) := do
  if dst = src then .error .textureAliasing
  checkAlike (m.texture src) (m.texture dst)
  m.blitToTexture dst src (.covering (m.texture src).size) (.covering (m.texture dst).size)

/-- An extent of zero stands for "up to the edge of the source". -/
def regionExtent (extent origin size : Nat) : Nat := if extent = 0 then size - origin else extent

/-- Where a region comes from and where it goes. -/
structure Region where
  dstX : UInt32
  dstY : UInt32
  srcX : UInt32
  srcY : UInt32
  srcWidth : UInt32
  srcHeight : UInt32
  deriving DecidableEq, Repr

namespace Region

def width (r : Region) (src : Size) : Nat :=
  regionExtent r.srcWidth.toNat r.srcX.toNat src.cols

def height (r : Region) (src : Size) : Nat :=
  regionExtent r.srcHeight.toNat r.srcY.toNat src.rows

def srcRect (r : Region) (src : Size) : Rect :=
  ⟨r.srcX.toNat, r.srcY.toNat, r.width src, r.height src⟩

def dstRect (r : Region) (src : Size) : Rect :=
  ⟨r.dstX.toNat, r.dstY.toNat, r.width src, r.height src⟩

end Region

def copyRegion (m : Memory) (dst src : TextureId) (r : Region) : Except Error (Memory × Log) := do
  if dst = src then .error .textureAliasing
  let size := (m.texture src).size
  m.blitToTexture dst src (r.srcRect size) (r.dstRect size)

def stageTexture (m : Memory) (dst : StageId) (src : TextureId) : Except Error (Memory × Log) := do
  let source := m.texture src
  let target := (m.stage dst).texture
  checkAlike source target
  let (t, log) ← blit source target (.covering source.size) (.covering target.size)
  return (m.setStage dst ⟨t⟩, log)

/-- Fills a texture with a colour its format can hold. -/
def clear (m : Memory) (dst : TextureId) (color : Vec4 Float32) : Except Error (Memory × Log) :=
  let t := m.texture dst
  match (Rgba8.ofFloats color.x color.y color.z color.w).encode? t.format with
  | some px => .ok (m.setTexture dst (t.fill px), [])
  | none => .error (.unsupportedFormat t.format)

end BlitDevice.Memory
