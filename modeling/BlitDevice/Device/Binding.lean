import BlitDevice.Device.Basic

/-!
# Binding and recording

Calls that change what later draws depend on, or that are recorded for whoever asks. None touches a
surface, and only one can fail: `Session.popProjection`, when nothing was saved.
-/

set_option autoImplicit false

namespace BlitDevice.Session

/-- Changes the bindings. -/
def bind (s : Session) (f : Bindings → Bindings) : Outcome Unit :=
  (s.modifyContext fun c => { c with bindings := f c.bindings }).done ()

/-- Changes the recorded state. -/
def record (s : Session) (f : RenderState → RenderState) : Outcome Unit :=
  (s.modifyContext fun c => { c with renderState := f c.renderState }).done ()

/-- Changes the transforms. -/
def transform (s : Session) (f : Transforms Float32 → Transforms Float32) : Outcome Unit :=
  (s.modifyContext fun c => { c with transforms := f c.transforms }).done ()

def loadVertexBuffer (s : Session) (buffer : Option (VertexBuffer Float32)) : Outcome Unit :=
  s.bind fun b => { b with vertexBuffer := buffer }

/-- Fills the bound vertex buffer anew, if it can be. -/
def refillVertexBuffer (s : Session) (data : VertexData Float32) : Outcome Unit :=
  s.bind fun b => { b with vertexBuffer := b.vertexBuffer.map (·.refill data) }

def loadIndexBuffer (s : Session) (buffer : Option IndexBuffer) : Outcome Unit :=
  s.bind fun b => { b with indexBuffer := buffer }

/-- Binds a shader, of either stage, where vertex shaders go. -/
def loadVertexShader (s : Session) (shader : Option Shader) : Outcome Unit :=
  s.bind fun b => { b with vertexShader := shader }

/-- Binds a shader, of either stage, where pixel shaders go. -/
def loadFragmentShader (s : Session) (shader : Option Shader) : Outcome Unit :=
  s.bind fun b => { b with fragmentShader := shader }

def setRenderTarget (s : Session) (target : Option TextureId) : Outcome Unit :=
  s.bind fun b => { b with renderTarget := target }

/-- Writes a parameter slot. -/
def setParam (s : Session) (param : ShaderParam) (value : ParamValue TextureId) : Outcome Unit :=
  let (params, log) := s.context.params.set param value
  (s.modifyContext fun c => { c with params }).done () log

/-- Loads the view draws go to without a render target, and gives back the one before. -/
def loadSwapchain (s : Session) (view : Option ViewId) : Outcome (Option ViewId) :=
  (s.modifyContext fun c => { c with swapchain := view }).done s.context.swapchain

def enableBlending (s : Session) (enable : Bool) : Outcome Unit :=
  s.record fun r => { r with blending := enable }

def setBlend (s : Session) (blend : Blend) : Outcome Unit := s.record fun r => { r with blend }

/-- The same factors for colour and for alpha. -/
def setBlendFactors (s : Session) (src dst : BlendFactor) : Outcome Unit :=
  s.setBlend ⟨src, dst, src, dst⟩

def enableDepthTest (s : Session) (enable : Bool) : Outcome Unit :=
  s.record fun r => { r with depthTest := enable }

def setCullMode (s : Session) (mode : CullMode) : Outcome Unit :=
  s.record fun r => { r with cullMode := mode }

def setProjection (s : Session) (m : Mat4 Float32) : Outcome Unit :=
  s.transform fun t => { t with projection := m }

/-- Saves the projection. -/
def pushProjection (s : Session) : Outcome Unit :=
  s.transform fun t => { t with saved := t.projection :: t.saved }

/-- Brings the projection saved last back. -/
def popProjection (s : Session) : Outcome Unit :=
  match s.context.transforms.saved with
  | [] => s.fail .projectionStackEmpty
  | m :: rest => s.transform fun t => { t with projection := m, saved := rest }

def setModelView (s : Session) (m : Mat4 Float32) : Outcome Unit :=
  s.transform fun t => { t with modelView := m }

def setViewport (s : Session) (viewport : Viewport) : Outcome Unit :=
  s.transform fun t => { t with viewport }

end BlitDevice.Session
