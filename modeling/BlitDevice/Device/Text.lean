import BlitDevice.Device.Basic
import BlitDevice.Number.Shortest

/-!
# How a device is shown

`Device.text` — everything a device holds, on one line. Textures are looked up in memory; of the
loaded view only the size is shown, and saved projections stand in the order they were saved in.
-/

set_option autoImplicit false

namespace BlitDevice

/-- How a handle is shown: as its texture, unless that is being written to. -/
def Texture.sharedText (t : Texture) (busy : Bool) : String :=
  if busy then "SharedTexture(<borrowed>)" else t.text

def Vec3.text (v : Vec3 Float32) : String :=
  called "Vec3" ([v.x, v.y, v.z].map floatText)

def Vec4.text (v : Vec4 Float32) : String :=
  called "Vec4" ([v.x, v.y, v.z, v.w].map floatText)

def Mat4.text (m : Mat4 Float32) : String :=
  braced "Mat4" [("x_axis", m.xAxis.text), ("y_axis", m.yAxis.text), ("z_axis", m.zAxis.text),
    ("w_axis", m.wAxis.text)]

def ShaderKind.text : ShaderKind → String
  | unknown => "Unknown"
  | known program stage => braced "Known" [("program", program.name), ("stage", stage.name)]

def Shader.text (s : Shader) : String :=
  braced "Shader" [("kind", s.kind.text), ("stage", s.stage.name), ("file", quoted s.file),
    ("descriptor", quoted s.descriptor)]

def TexCoordChannel.text (c : TexCoordChannel Float32) : String :=
  braced "TexCoordChannel" [("width", toString c.width),
    ("values", listed (c.values.map floatText))]

def VertexData.text (d : VertexData Float32) : String :=
  braced "VertexData" [("points", listed (d.points.map Vec3.text)),
    ("tex_coords", listed (d.texCoords.map TexCoordChannel.text))]

def VertexBuffer.text (b : VertexBuffer Float32) : String :=
  braced "VertexBuffer" [("data", b.data.text), ("dynamic", switched b.dynamic)]

def IndexBuffer.text (b : IndexBuffer) : String :=
  braced "IndexBuffer" [("indices", listed (b.indices.map toString))]

/-- The texture of a handle as it is shown. -/
def Memory.textureText (m : Memory) (id : TextureId) : String := (m.texture id).sharedText false

def Bindings.text (b : Bindings) (m : Memory) : String :=
  braced "Bindings" [("vertex_shader", optional (b.vertexShader.map Shader.text)),
    ("fragment_shader", optional (b.fragmentShader.map Shader.text)),
    ("vertex_buffer", optional (b.vertexBuffer.map VertexBuffer.text)),
    ("index_buffer", optional (b.indexBuffer.map IndexBuffer.text)),
    ("render_target", optional (b.renderTarget.map m.textureText))]

def ParamSlots.text (s : ParamSlots TextureId) (m : Memory) : String :=
  braced "ParamSlots" [("image", optional (s.image.map m.textureText)),
    ("color_vecs", listed (s.colorVecs.toList.map Vec4.text))]

def Viewport.text (v : Viewport) : String :=
  braced "Viewport" [("x", toString v.x), ("y", toString v.y), ("width", toString v.width),
    ("height", toString v.height)]

def Transforms.text (t : Transforms Float32) : String :=
  braced "Transforms" [("projection", t.projection.text),
    ("projection_stack", listed (t.saved.reverse.map Mat4.text)),
    ("model_view", t.modelView.text), ("viewport", t.viewport.text)]

def Blend.text (b : Blend) : String :=
  braced "BlendState" [("src_color", b.srcColor.name), ("dst_color", b.dstColor.name),
    ("src_alpha", b.srcAlpha.name), ("dst_alpha", b.dstAlpha.name)]

def RenderState.text (r : RenderState) : String :=
  braced "RenderState" [("blend", r.blend.text), ("blending_enabled", switched r.blending),
    ("depth_test", switched r.depthTest), ("cull_mode", r.cullMode.name)]

def DrawContext.text (c : DrawContext) (m : Memory) : String :=
  braced "DrawContext" [("bindings", c.bindings.text m), ("params", c.params.text m),
    ("transforms", c.transforms.text), ("render_state", c.renderState.text),
    ("swapchain", optional (c.swapchain.map fun id => Error.pair (m.view id).size))]

def DeviceConfig.text (c : DeviceConfig) : String :=
  braced "DeviceConfig" [("adapter", toString c.adapter), ("debug_name", quoted c.name)]

/-- Everything a device holds. -/
def Device.text (d : Device) (m : Memory) : String :=
  braced "Device" [("config", d.config.text), ("ctx", d.context.text m)]

end BlitDevice
