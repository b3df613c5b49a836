import BlitDevice.Error
import BlitDevice.Rect
import BlitDevice.Projection
import BlitDevice.Vertex

/-!
# The rectangles of a textured quad

* `span` — two corners along one axis, rounded: where the side starts and how far it goes.
* `QuadGeometry.ofDraw` — the source and the destination rectangle of a draw, if it has the shape
  of one: a strip of four points with one channel of pairs. Points 0 and 3 are opposite corners;
  projected they give the destination, their texture coordinates give the source.
-/

set_option autoImplicit false

namespace BlitDevice

/-- A source and a destination rectangle. -/
structure QuadGeometry where
  src : Rect
  dst : Rect
  deriving DecidableEq, Repr

variable {K : Type} [Scalar K]

/-- Start and extent of a side between two corners. The extent has to be a 64-bit whole number. -/
def span (side : RectSide) (low high : K) : Except Error (Int × Int) :=
  let a := Scalar.toWord low
  let b := Scalar.toWord high
  if Binary32.leastWord ≤ b - a ∧ b - a ≤ Binary32.greatestWord then .ok (a, b - a)
  else .error (.notABlit (.extent side a b))

/-- Projects one corner. -/
def corner (t : Transforms K) (index : Nat) (vertex : Vec3 K) : Except Error (ScreenPoint K) :=
  match project t.combined t.viewport vertex with
  | some p => .ok p
  | none => .error (.notABlit (.offScreen index))

/-- The vertices a draw asks for are all four, by count or by leaving the count out. -/
def drawsAll (start count : UInt32) : Bool := start == 0 && (count == 0 || count == 4)

namespace QuadGeometry

/-- The shape every draw of a quad has: its two opposite points and their texture coordinates. -/
def corners (data : VertexData K) (mode : DrawMode) (start count : UInt32) :
    Except Error ((Vec3 K × Vec3 K) × (K × K) × (K × K)) :=
  match data.points with
  | [p0, _, _, p3] =>
    match data.texCoords with
    | [channel] =>
      if channel.width ≠ 2 then .error (.notABlit (.channelWidth channel.width))
      else if mode ≠ .triStrip then .error (.notABlit (.mode mode))
      else if !drawsAll start count then
        .error (.notABlit
          (.range start.toNat (min (start.toNat + count.toNat) 0xffffffff)))
      else
        match channel.get? 0, channel.get? 3 with
        | some [u0, v0], some [u3, v3] => .ok ((p0, p3), (u0, v0), (u3, v3))
        | _, _ => .error (.notABlit (.coordinates channel.size))
    | channels => .error (.notABlit (.channels channels.length))
  | points => .error (.notABlit (.points points.length))

/-- The rectangles between two opposite corners. -/
def ofCorners (p0 p3 : ScreenPoint K) (uv0 uv3 : K × K) : Except Error QuadGeometry := do
  let (x, width) ← span .destinationWidth p0.x p3.x
  let (y, height) ← span .destinationHeight p0.y p3.y
  let (u, uWidth) ← span .sourceWidth uv0.1 uv3.1
  let (v, vHeight) ← span .sourceHeight uv0.2 uv3.2
  return ⟨⟨u, v, uWidth, vHeight⟩, ⟨x, y, width, height⟩⟩

/-- The rectangles of a draw. -/
def ofDraw (buffer : Option (VertexBuffer K)) (t : Transforms K) (mode : DrawMode)
    (start count : UInt32) : Except Error QuadGeometry :=
  match buffer with
  | none => .error .noVertexBuffer
  | some buffer => do
    let ((v0, v3), uv0, uv3) ← corners buffer.data mode start count
    let p0 ← corner t 0 v0
    let p3 ← corner t 3 v3
    ofCorners p0 p3 uv0 uv3

end QuadGeometry

end BlitDevice
