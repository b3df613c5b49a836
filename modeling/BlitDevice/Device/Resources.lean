import BlitDevice.Device.Basic
import BlitDevice.Texture.Picture

/-!
# Creating resources

Textures and stage surfaces go into memory and are known by handles. Shaders and samplers are plain
values; creating them only tells what is not understood. What is not modelled is declined:

* `DeclinedCall` — the calls that always fail, and `DeclinedCall.operation` what each is about.
-/

set_option autoImplicit false

namespace BlitDevice

/-- The calls that always fail. -/
inductive DeclinedCall where
  | cubeTexture (side : UInt32) (format : PixelFormat) (levels : UInt32)
  | volumeTexture (size : Size) (depth : UInt32) (format : PixelFormat) (levels : UInt32)
  | depthStencil (size : Size) (format : DepthStencilFormat)
  | stencilTest (enable : Bool)
  | stencilWrite (enable : Bool)
  | stencilFunction (side : StencilSide) (test : DepthTest)
  | stencilActions (side : StencilSide) (fail depthFail pass : StencilAction)
  | depthFunction (test : DepthTest)
  | scissorRect (rect : Option Viewport)
  | colorMask (red green blue alpha : Bool)
  | markerBegin (name : String) (color : Vec4 Float32)
  | markerEnd
  deriving DecidableEq

def DeclinedCall.operation : DeclinedCall → Operation
  | cubeTexture .. => .cubeTexture
  | volumeTexture .. => .volumeTexture
  | depthStencil .. => .depthStencil
  | stencilTest _ => .stencilTest
  | stencilWrite _ => .stencilWrite
  | stencilFunction .. => .stencilFunction
  | stencilActions .. => .stencilActions
  | depthFunction _ => .depthFunction
  | scissorRect _ => .scissorRect
  | colorMask .. => .colorMask
  | markerBegin .. => .markerBegin
  | markerEnd => .markerEnd

namespace Session

/-- Takes a texture into memory, or fails. -/
def keepTexture (s : Session) (result : Except Error Texture) : Outcome TextureId :=
  match result with
  | .ok t =>
    let (memory, id) := s.memory.addTexture t
    { s with memory }.done id
  | .error e => s.fail e

def createTexture (s : Session) (config : TextureConfig) (data : Option Bytes) :
    Outcome TextureId :=
  s.keepTexture (Texture.create config data)

/-- Takes in a texture with the colours of a decoded image. -/
def createTextureFromPng (s : Session) (picture : Png.Reading) (name : String) :
    Outcome TextureId :=
  s.keepTexture (Texture.ofReading picture name)

def createStage (s : Session) (size : Size) (format : PixelFormat) : Outcome StageId :=
  match StageSurface.create size format with
  | .ok stage =>
    let (memory, id) := s.memory.addStage stage
    { s with memory }.done id
  | .error e => s.fail e

def createShader (s : Session) (stage : ShaderStage) (descriptor : String) : Outcome Shader :=
  let (shader, log) := Shader.create stage descriptor
  s.done shader log

def createSampler (s : Session) (sampler : Sampler) : Outcome Sampler := s.done sampler sampler.log

/-- A call that always fails. -/
def decline (s : Session) (call : DeclinedCall) : Outcome Unit :=
  s.fail (.unimplemented call.operation)

end Session

end BlitDevice
