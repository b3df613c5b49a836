import BlitDevice.Device.Binding
import BlitDevice.Device.Pixels
import BlitDevice.Device.Resources

/-!
# Calls as data

* `Call` — everything that can be asked of a device.
* `Session.step` — what one call comes to.
* `Session.run` — a list of calls, each from where the one before left off.
-/

set_option autoImplicit false

namespace BlitDevice

/-- A call that marks a place in a frame; nothing depends on it. -/
inductive FrameMark where
  | enterContext | leaveContext | beginFrame | beginScene | endScene | flush
  deriving DecidableEq, Repr

/-- Everything that can be asked of a device. -/
inductive Call where
  | createTexture (config : TextureConfig) (data : Option Bytes)
  | createTextureFromPng (picture : Png.Reading) (name : String)
  | createStage (size : Size) (format : PixelFormat)
  | createShader (stage : ShaderStage) (descriptor : String)
  | createSampler (sampler : Sampler)
  | declined (call : DeclinedCall)
  | loadVertexBuffer (buffer : Option (VertexBuffer Float32))
  | refillVertexBuffer (data : VertexData Float32)
  | loadIndexBuffer (buffer : Option IndexBuffer)
  | loadVertexShader (shader : Option Shader)
  | loadFragmentShader (shader : Option Shader)
  | setRenderTarget (target : Option TextureId)
  | setParam (param : ShaderParam) (value : ParamValue TextureId)
  | loadSwapchain (view : Option ViewId)
  | enableBlending (enable : Bool)
  | setBlend (blend : Blend)
  | setBlendFactors (src dst : BlendFactor)
  | enableDepthTest (enable : Bool)
  | setCullMode (mode : CullMode)
  | ortho (left right top bottom near far : Float32)
  | frustum (left right top bottom near far : Float32)
  | pushProjection
  | popProjection
  | setModelView (m : Mat4 Float32)
  | setViewport (viewport : Viewport)
  | clear (flags : ClearFlags) (color : Vec4 Float32) (depth : Float32) (stencil : UInt8)
  | copyTexture (dst src : TextureId)
  | copyRegion (dst src : TextureId) (region : Memory.Region)
  | stageTexture (dst : StageId) (src : TextureId)
  | draw (mode : DrawMode) (start count : UInt32)
  | present
  | resize (size : Size)
  | outputSize
  | mark (place : FrameMark)
  deriving DecidableEq

/-- What a call gives back. -/
inductive Answer where
  | done
  | texture (id : TextureId)
  | stage (id : StageId)
  | shader (shader : Shader)
  | sampler (sampler : Sampler)
  | view (id : Option ViewId)
  | size (size : Size)
  deriving DecidableEq

namespace Outcome

/-- The same outcome with its answer wrapped. -/
def map {α β : Type} (f : α → β) (o : Outcome α) : Outcome β :=
  ⟨o.answer.map f, o.log, o.session⟩

/-- Wraps an outcome without an answer of its own. -/
def unit (o : Outcome Unit) : Outcome Answer := o.map fun _ => .done

end Outcome

namespace Session

/-- What one call comes to. -/
def step (s : Session) : Call → Outcome Answer
  | .createTexture config data => (s.createTexture config data).map .texture
  | .createTextureFromPng picture name => (s.createTextureFromPng picture name).map .texture
  | .createStage size format => (s.createStage size format).map .stage
  | .createShader stage descriptor => (s.createShader stage descriptor).map .shader
  | .createSampler sampler => (s.createSampler sampler).map .sampler
  | .declined call => (s.decline call).unit
  | .loadVertexBuffer buffer => (s.loadVertexBuffer buffer).unit
  | .refillVertexBuffer data => (s.refillVertexBuffer data).unit
  | .loadIndexBuffer buffer => (s.loadIndexBuffer buffer).unit
  | .loadVertexShader shader => (s.loadVertexShader shader).unit
  | .loadFragmentShader shader => (s.loadFragmentShader shader).unit
  | .setRenderTarget target => (s.setRenderTarget target).unit
  | .setParam param value => (s.setParam param value).unit
  | .loadSwapchain view => (s.loadSwapchain view).map .view
  | .enableBlending enable => (s.enableBlending enable).unit
  | .setBlend blend => (s.setBlend blend).unit
  | .setBlendFactors src dst => (s.setBlendFactors src dst).unit
  | .enableDepthTest enable => (s.enableDepthTest enable).unit
  | .setCullMode mode => (s.setCullMode mode).unit
  | .ortho left right top bottom near far =>
    (s.setProjection (BlitDevice.ortho left right top bottom near far)).unit
  | .frustum left right top bottom near far =>
    (s.setProjection (BlitDevice.frustum left right top bottom near far)).unit
  | .pushProjection => s.pushProjection.unit
  | .popProjection => s.popProjection.unit
  | .setModelView m => (s.setModelView m).unit
  | .setViewport viewport => (s.setViewport viewport).unit
  | .clear flags color _ _ => (s.clear flags color).unit
  | .copyTexture dst src => (s.copyTexture dst src).unit
  | .copyRegion dst src region => (s.copyRegion dst src region).unit
  | .stageTexture dst src => (s.stageTexture dst src).unit
  | .draw mode start count => (s.draw mode start count).unit
  | .present => s.present.unit
  | .resize size => (s.resize size).unit
  | .outputSize => s.outputSize.map .size
  | .mark _ => (s.done ()).unit

/-- Runs calls one after the other: what each came to, and the session at the end. -/
def run (s : Session) : List Call → List (Outcome Answer) × Session
  | [] => ([], s)
  | c :: cs =>
    let o := s.step c
    let (os, final) := run o.session cs
    (o :: os, final)

end Session

end BlitDevice
