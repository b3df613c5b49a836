import BlitDevice.Matrix

/-!
# Vertices

* `TexCoordChannel` — texture coordinates, so many numbers per vertex.
* `TexCoordChannel.get?`, `TexCoordChannel.size` — the coordinates of one vertex, and how many
  vertices have them.
* `VertexData` — positions and channels; `VertexData.quad` is a textured rectangle.
* `VertexBuffer`, `IndexBuffer` — created buffers.
-/

set_option autoImplicit false

namespace BlitDevice

/-- Texture coordinates, one vertex after the other, `width` numbers for each. -/
structure TexCoordChannel (K : Type) where
  width : Nat
  values : List K
  deriving DecidableEq

namespace TexCoordChannel

variable {K : Type}

/-- A channel of pairs. -/
def uv (pairs : List (K × K)) : TexCoordChannel K := ⟨2, pairs.flatMap fun (u, v) => [u, v]⟩

/-- The coordinates of a vertex, if the channel holds all of them. -/
def get? (c : TexCoordChannel K) (index : Nat) : Option (List K) :=
  if index * c.width + c.width ≤ c.values.length then
    some ((c.values.drop (index * c.width)).take c.width)
  else none

/-- How many vertices the channel covers; none when it has no width. -/
def size (c : TexCoordChannel K) : Nat := if c.width = 0 then 0 else c.values.length / c.width

def isEmpty (c : TexCoordChannel K) : Bool := c.size == 0

end TexCoordChannel

/-- What a vertex buffer holds. -/
structure VertexData (K : Type) where
  points : List (Vec3 K)
  texCoords : List (TexCoordChannel K)
  deriving DecidableEq

/-- A textured rectangle as a strip: top left, top right, bottom left, bottom right. Texture
coordinates are in pixels of the source. -/
def VertexData.quad {K : Type} [Scalar K] (x y w h u v uw vh : K) : VertexData K where
  points :=
    let z : K := Scalar.ofInt 0
    [⟨x, y, z⟩, ⟨x + w, y, z⟩, ⟨x, y + h, z⟩, ⟨x + w, y + h, z⟩]
  texCoords := [TexCoordChannel.uv [(u, v), (u + uw, v), (u, v + vh), (u + uw, v + vh)]]

/-- A created vertex buffer. Only a dynamic one can be filled again. -/
structure VertexBuffer (K : Type) where
  data : VertexData K
  dynamic : Bool
  deriving DecidableEq

namespace VertexBuffer

variable {K : Type}

def size (b : VertexBuffer K) : Nat := b.data.points.length

def isEmpty (b : VertexBuffer K) : Bool := b.data.points.isEmpty

/-- Fills a dynamic buffer anew. A static one stays as it is. -/
def refill (b : VertexBuffer K) (data : VertexData K) : VertexBuffer K :=
  if b.dynamic then { b with data } else b

end VertexBuffer

/-- A created index buffer; no draw reads it. -/
structure IndexBuffer where
  indices : List UInt32
  deriving DecidableEq, Repr

end BlitDevice
