import BlitDevice.Context
import BlitDevice.Copy
import BlitDevice.Luma
import BlitDevice.Quad

/-!
# Draws

No shader code runs. The pair of bound shaders selects one of three emulations:

* `DrawContext.route` — which one, or why none.
* `DrawContext.texturedBlit` — a blit of the bound image to the render target, or to the swapchain
  when there is none.
* `DrawContext.luma` — the luma plane of the bound image into the render target.
* `DrawContext.chroma` — declined.
-/

set_option autoImplicit false

namespace BlitDevice.DrawContext

/-- The emulation the bound shaders select. -/
def route (c : DrawContext) : Except Error Route :=
  match c.bindings.vertexShader, c.bindings.fragmentShader with
  | some vertex, some fragment =>
    match vertex.kind.program?, fragment.kind.program? with
    | some p, some q =>
      match Route.ofPrograms? p q with
      | some r => .ok r
      | none => .error (.unhandledShaderPair p q)
    | _, _ => .error (.unknownShader vertex.file fragment.file)
  | _, _ => .error .missingShaders

def boundImage (c : DrawContext) : Except Error TextureId :=
  match c.params.image with
  | some image => .ok image
  | none => .error .noSourceImage

def boundTarget (c : DrawContext) : Except Error TextureId :=
  match c.bindings.renderTarget with
  | some target => .ok target
  | none => .error .noRenderTarget

/-- Blits the bound image where the quad says. -/
def texturedBlit (c : DrawContext) (m : Memory) (mode : DrawMode) (start count : UInt32) :
    Except Error (Memory × Log) := do
  let quad ← QuadGeometry.ofDraw c.bindings.vertexBuffer c.transforms mode start count
  let image ← c.boundImage
  match c.bindings.renderTarget with
  | some target =>
    if target = image then .error .textureAliasing
    else m.blitToTexture target image quad.src quad.dst
  | none =>
    match c.swapchain with
    | some view => m.blitToView view image quad.src quad.dst
    | none => .error .noSwapchain

/-- Computes the luma plane of the bound image; the first colour vector holds the weights. -/
def luma (c : DrawContext) (m : Memory) : Except Error (Memory × Log) := do
  let target ← c.boundTarget
  let image ← c.boundImage
  if target = image then .error .textureAliasing
  let plane ← convertToLuma (m.texture image) (m.texture target) (c.params.colorVec 0)
  return (m.setTexture target plane, [])

/-- Chroma planes are recognised and declined. -/
def chroma (c : DrawContext) : Except Error (Memory × Log) := do
  let _ ← c.boundTarget
  .error (.unimplemented .chromaPlane)

/-- Runs one emulation. -/
def emulate (c : DrawContext) (m : Memory) (mode : DrawMode) (start count : UInt32) :
    Route → Except Error (Memory × Log)
  | .texturedBlit => c.texturedBlit m mode start count
  | .luma => c.luma m
  | .chroma => c.chroma

end BlitDevice.DrawContext
