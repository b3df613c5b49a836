import BlitDevice.Log

/-!
# Shaders

* `Shader` — what a shader was recognised as. No shader code runs.
* `Shader.create` — recognises a descriptor, and tells when it cannot.
-/

set_option autoImplicit false

namespace BlitDevice

/-- A created shader. -/
structure Shader where
  kind : ShaderKind
  stage : ShaderStage
  file : String
  descriptor : String
  deriving DecidableEq, Repr

namespace Shader

def ofDescriptor (stage : ShaderStage) (descriptor : String) : Shader where
  kind := ShaderKind.resolve stage descriptor
  stage := stage
  file := (Descriptor.split descriptor).1
  descriptor := descriptor

/-- What creating the shader tells. -/
def log (s : Shader) : Log := if s.kind = .unknown then [.unknownShader s.descriptor] else []

/-- Creates a shader: the shader, and what was told. -/
def create (stage : ShaderStage) (descriptor : String) : Shader × Log :=
  let s := ofDescriptor stage descriptor
  (s, s.log)

end Shader

end BlitDevice
