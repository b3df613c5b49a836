import BlitDevice.Format
import BlitDevice.Size
import BlitDevice.RenderState
import BlitDevice.Shader.Program
import BlitDevice.Png.Error
import BlitDevice.Text.Quoted
import BlitDevice.Text.Layout

/-!
# Errors

* `Operation` — what the device declines to do.
* `ShapeFault` — why a draw is not a blit.
* `Error` — every cause a call can fail for.
* `Error.kind`, `Error.message`, `Error.text` — its class, its sentence, and how a log shows it.
-/

set_option autoImplicit false

namespace BlitDevice

/-- What the device declines to do. -/
inductive Operation where
  | cubeTexture | volumeTexture | depthStencil | stencilTest | stencilWrite | stencilFunction
  | stencilActions | depthFunction | scissorRect | colorMask | markerBegin | markerEnd | chromaPlane
  deriving DecidableEq, Repr

def Operation.name : Operation → String
  | cubeTexture => "cube_texture_create"
  | volumeTexture => "volume_texture_create"
  | depthStencil => "zstencil_create"
  | stencilTest => "enable_stencil_test"
  | stencilWrite => "enable_stencil_write"
  | stencilFunction => "stencil_function"
  | stencilActions => "stencil_op"
  | depthFunction => "depth_function"
  | scissorRect => "set_scissor_rect"
  | colorMask => "enable_color"
  | markerBegin => "debug_marker_begin"
  | markerEnd => "debug_marker_end"
  | chromaPlane => "NV12 chroma plane conversion"

/-- A side of one of the two rectangles of a blit. -/
inductive RectSide where
  | destinationWidth | destinationHeight | sourceWidth | sourceHeight
  deriving DecidableEq, Repr

def RectSide.name : RectSide → String
  | destinationWidth => "destination width"
  | destinationHeight => "destination height"
  | sourceWidth => "source width"
  | sourceHeight => "source height"

/-- Why a draw is not a blit. -/
inductive ShapeFault where
  | points (found : Nat)
  | channels (found : Nat)
  | channelWidth (found : Nat)
  | mode (found : DrawMode)
  | range (start stop : Nat)
  | coordinates (found : Nat)
  | offScreen (vertex : Nat)
  | extent (side : RectSide) (low high : Int)
  deriving DecidableEq, Repr

def ShapeFault.message : ShapeFault → String
  | points n => s!"expected 4 points, found {n}"
  | channels n => s!"expected 1 texture coordinate channel, found {n}"
  | channelWidth n => s!"expected texture coordinates of width 2, found {n}"
  | mode m => "expected a triangle strip, found " ++ m.name
  | range start stop => s!"expected to draw vertices 0..4, found {start}..{stop}"
  | coordinates n => s!"expected 4 texture coordinates, found {n}"
  | offScreen v => s!"vertex {v} does not project onto the screen"
  | extent side low high => side.name ++ s!" from {low} to {high} does not fit in a rectangle"

/-- Why a call failed. -/
inductive Error where
  | unsupportedFormatPair (src dst : PixelFormat)
  | resolutionMismatch (src dst : Size)
  | unsupportedLumaFormat (format : PixelFormat)
  | unsupportedFormat (format : PixelFormat)
  | textureTooLarge (size : Size) (levels : UInt32)
  | invalidInitialData (expected actual : Nat)
  | sizeMismatch (a b : Size)
  | noRenderTarget
  | noSourceImage
  | noVertexBuffer
  | missingShaders
  | unknownShader (vertex fragment : String)
  | notABlit (fault : ShapeFault)
  | noSwapchain
  | textureAliasing
  | projectionStackEmpty
  | unimplemented (operation : Operation)
  | unhandledShaderPair (vertex fragment : Program)
  | pngEncode (cause : Png.EncodeError)
  | pngDecode (cause : Png.DecodeError)
  | unsupportedPng (reason : String)
  deriving DecidableEq, Repr

/-- The class of a cause, by what the caller can do about it. -/
inductive ErrorKind where
  | configuration | shapeMismatch | unimplemented | unknown
  deriving DecidableEq, Repr

def ErrorKind.name : ErrorKind → String
  | configuration => "Configuration"
  | shapeMismatch => "ShapeMismatch"
  | unimplemented => "Unimplemented"
  | unknown => "Unknown"

namespace Error

def kind : Error → ErrorKind
  | notABlit _ => .shapeMismatch
  | unimplemented _ | unhandledShaderPair _ _ => .unimplemented
  | unknownShader _ _ => .unknown
  | _ => .configuration

/-- The written name of the cause. -/
def name : Error → String
  | unsupportedFormatPair _ _ => "UnsupportedFormatPair"
  | resolutionMismatch _ _ => "ResolutionMismatch"
  | unsupportedLumaFormat _ => "UnsupportedLumaFormat"
  | unsupportedFormat _ => "UnsupportedFormat"
  | textureTooLarge _ _ => "TextureTooLarge"
  | invalidInitialData _ _ => "InvalidInitialData"
  | sizeMismatch _ _ => "SizeMismatch"
  | noRenderTarget => "NoRenderTarget"
  | noSourceImage => "NoSourceImage"
  | noVertexBuffer => "NoVertexBuffer"
  | missingShaders => "MissingShaders"
  | unknownShader _ _ => "UnknownShader"
  | notABlit _ => "NotABlit"
  | noSwapchain => "NoSwapchain"
  | textureAliasing => "TextureAliasing"
  | projectionStackEmpty => "ProjectionStackEmpty"
  | unimplemented _ => "Unimplemented"
  | unhandledShaderPair _ _ => "UnhandledShaderPair"
  | pngEncode _ => "PngEncode"
  | pngDecode _ => "PngDecode"
  | unsupportedPng _ => "UnsupportedPng"

/-- The sentence for a reader. -/
def message : Error → String
  | unsupportedFormatPair src dst => "Can't blit between " ++ src.name ++ " and " ++ dst.name
  | resolutionMismatch src dst => "Source is " ++ src.text ++ " but destination is " ++ dst.text
  | unsupportedLumaFormat f =>
    "Can't convert to luma: destination format " ++ f.name ++ " is not a single-byte luma format"
  | unsupportedFormat f => "Format " ++ f.name ++ " can't back a software texture"
  | textureTooLarge size levels =>
    "A " ++ size.text ++ s!" texture with {levels} levels is too large to address"
  | invalidInitialData expected actual =>
    s!"Initial data is {actual} bytes, expected {expected}"
  | sizeMismatch a b => "Textures differ in size: " ++ a.text ++ " vs " ++ b.text
  | noRenderTarget => "No render target is bound"
  | noSourceImage => "No source image is bound"
  | noVertexBuffer => "No vertex buffer is bound"
  | missingShaders => "Vertex and pixel shaders must both be bound"
  | unknownShader vertex fragment =>
    "Unknown shader pair: vertex shader " ++ vertex ++ ", pixel shader " ++ fragment
  | notABlit fault => "Draw call doesn't look like a blit: " ++ fault.message
  | noSwapchain => "Trying to draw on swapchain without current swapchain"
  | textureAliasing => "Source image and render target are the same texture"
  | projectionStackEmpty => "Projection stack is empty"
  | unimplemented op => op.name ++ " is unimplemented."
  | unhandledShaderPair vertex fragment =>
    "Drawing with vertex shader " ++ vertex.name ++ " and pixel shader " ++ fragment.name ++
      " is unimplemented."
  | pngEncode cause => "PNG encoding failed: " ++ cause.message
  | pngDecode cause => "PNG decoding failed: " ++ cause.message
  | unsupportedPng reason => "Unsupported PNG: " ++ reason

/-- A size as a log shows it. -/
def pair (s : Size) : String := called "" [toString s.cols, toString s.rows]

/-- How a log shows the error: its name and what it holds. Of a PNG error only the name is shown. -/
def text (e : Error) : String :=
  match e with
  | unsupportedFormatPair src dst => braced e.name [("src", src.name), ("dst", dst.name)]
  | resolutionMismatch src dst => braced e.name [("src", pair src), ("dst", pair dst)]
  | unsupportedLumaFormat f | unsupportedFormat f => called e.name [f.name]
  | textureTooLarge size levels =>
    braced e.name [("width", toString size.cols), ("height", toString size.rows),
      ("levels", toString levels)]
  | invalidInitialData expected actual =>
    braced e.name [("expected", toString expected), ("actual", toString actual)]
  | sizeMismatch a b => braced e.name [("a", pair a), ("b", pair b)]
  | unknownShader vertex fragment =>
    braced e.name [("vertex", quoted vertex), ("fragment", quoted fragment)]
  | notABlit fault => called e.name [quoted fault.message]
  | unimplemented op => called e.name [quoted op.name]
  | unhandledShaderPair vertex fragment =>
    braced e.name [("vertex", quoted vertex.name), ("fragment", quoted fragment.name)]
  | unsupportedPng reason => called e.name [quoted reason]
  | noRenderTarget | noSourceImage | noVertexBuffer | missingShaders | noSwapchain
  | textureAliasing | projectionStackEmpty | pngEncode _ | pngDecode _ => e.name

end Error

end BlitDevice
