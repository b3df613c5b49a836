import BlitDevice.Memory
import BlitDevice.Parameter
import BlitDevice.Projection
import BlitDevice.Shader.Basic
import BlitDevice.Vertex

/-!
# What a draw depends on

* `Bindings` — shaders, buffers and render target.
* `DrawContext` — bindings, parameters, transforms, recorded state and the view that is drawn to
  when no render target is bound.
-/

set_option autoImplicit false

namespace BlitDevice

structure Bindings where
  vertexShader : Option Shader := none
  fragmentShader : Option Shader := none
  vertexBuffer : Option (VertexBuffer Float32) := none
  indexBuffer : Option IndexBuffer := none
  renderTarget : Option TextureId := none
  deriving DecidableEq

structure DrawContext where
  bindings : Bindings := {}
  params : ParamSlots TextureId := .initial
  transforms : Transforms Float32 := .initial
  renderState : RenderState := {}
  swapchain : Option ViewId := none
  deriving DecidableEq

end BlitDevice
