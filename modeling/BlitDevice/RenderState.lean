/-!
# Recorded render state

* `DrawMode` — how vertices form primitives.
* `BlendFactor`, `Blend`, `CullMode`, `RenderState` — state the device records and never reads.
* `ClearFlags` — which buffers a clear asks for.
* `DepthTest`, `StencilSide`, `StencilAction`, `DepthStencilFormat` — arguments of operations the
  device declines.
-/

set_option autoImplicit false

namespace BlitDevice

/-- How vertices form primitives. -/
inductive DrawMode where
  | points | lines | lineStrip | tris | triStrip
  deriving DecidableEq, Repr

namespace DrawMode

def all : List DrawMode := [points, lines, lineStrip, tris, triStrip]

def name : DrawMode → String
  | points => "Points"
  | lines => "Lines"
  | lineStrip => "LineStrip"
  | tris => "Tris"
  | triStrip => "TriStrip"

end DrawMode

/-- A factor one side of a blend is multiplied by. -/
inductive BlendFactor where
  | zero | one | srcColor | invSrcColor | srcAlpha | invSrcAlpha | dstColor | invDstColor
  | dstAlpha | invDstAlpha | srcAlphaSat
  deriving DecidableEq, Repr

namespace BlendFactor

def all : List BlendFactor :=
  [zero, one, srcColor, invSrcColor, srcAlpha, invSrcAlpha, dstColor, invDstColor, dstAlpha,
    invDstAlpha, srcAlphaSat]

def name : BlendFactor → String
  | zero => "Zero"
  | one => "One"
  | srcColor => "SrcColor"
  | invSrcColor => "InvSrcColor"
  | srcAlpha => "SrcAlpha"
  | invSrcAlpha => "InvSrcAlpha"
  | dstColor => "DstColor"
  | invDstColor => "InvDstColor"
  | dstAlpha => "DstAlpha"
  | invDstAlpha => "InvDstAlpha"
  | srcAlphaSat => "SrcAlphaSat"

end BlendFactor

/-- Blend factors for colour and for alpha. -/
structure Blend where
  srcColor : BlendFactor := .srcAlpha
  dstColor : BlendFactor := .invSrcAlpha
  srcAlpha : BlendFactor := .one
  dstAlpha : BlendFactor := .invSrcAlpha
  deriving DecidableEq, Repr

/-- Which faces are culled. -/
inductive CullMode where
  | back | front | neither
  deriving DecidableEq, Repr

namespace CullMode

def all : List CullMode := [back, front, neither]

def name : CullMode → String
  | back => "Back"
  | front => "Front"
  | neither => "Neither"

end CullMode

/-- State that is recorded for whoever asks; no pixel depends on it. -/
structure RenderState where
  blend : Blend := {}
  blending : Bool := false
  depthTest : Bool := false
  cullMode : CullMode := .back
  deriving DecidableEq, Repr

/-- The buffers a clear asks for; only colour exists. -/
structure ClearFlags where
  color : Bool
  depth : Bool
  stencil : Bool
  deriving DecidableEq, Repr

/-- How a depth would be compared. -/
inductive DepthTest where
  | never | less | lessEqual | equal | greaterEqual | greater | notEqual | always
  deriving DecidableEq, Repr

namespace DepthTest

def all : List DepthTest :=
  [never, less, lessEqual, equal, greaterEqual, greater, notEqual, always]

def name : DepthTest → String
  | never => "Never"
  | less => "Less"
  | lessEqual => "LessEqual"
  | equal => "Equal"
  | greaterEqual => "GreaterEqual"
  | greater => "Greater"
  | notEqual => "NotEqual"
  | always => "Always"

end DepthTest

/-- The faces a stencil would apply to. -/
inductive StencilSide where
  | front | back | both
  deriving DecidableEq, Repr

namespace StencilSide

def all : List StencilSide := [front, back, both]

def name : StencilSide → String
  | front => "Front"
  | back => "Back"
  | both => "Both"

end StencilSide

/-- What would happen to a stencil value. -/
inductive StencilAction where
  | keep | zero | replace | incr | decr | invert
  deriving DecidableEq, Repr

namespace StencilAction

def all : List StencilAction := [keep, zero, replace, incr, decr, invert]

def name : StencilAction → String
  | keep => "Keep"
  | zero => "Zero"
  | replace => "Replace"
  | incr => "Incr"
  | decr => "Decr"
  | invert => "Invert"

end StencilAction

/-- The encoding a depth and stencil buffer would have. -/
inductive DepthStencilFormat where
  | z16 | z24s8 | z32f | z32fs8x24
  deriving DecidableEq, Repr

namespace DepthStencilFormat

def all : List DepthStencilFormat := [z16, z24s8, z32f, z32fs8x24]

def name : DepthStencilFormat → String
  | z16 => "Z16"
  | z24s8 => "Z24S8"
  | z32f => "Z32F"
  | z32fs8x24 => "Z32FS8X24"

end DepthStencilFormat

end BlitDevice
