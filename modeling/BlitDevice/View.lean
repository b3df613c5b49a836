import BlitDevice.Blit

/-!
# Framebuffer views

* `View` — the output surface a device presents to, and how often it did.
* `View.create`, `View.resize` — a fresh output, all zero.
* `View.present` — counts one more frame; `frames_present` says what that comes to.
* `View.blitFrom` — a blit into the output.
-/

set_option autoImplicit false

namespace BlitDevice

/-- An output surface and the number of frames presented. A word counts them, unchecked, so after
the last number that it holds it starts again from zero. -/
structure View where
  output : Texture
  presented : UInt64
  deriving DecidableEq

namespace View

/-- What an output is created from. -/
def outputConfig (size : Size) : TextureConfig where
  size := size
  format := .rgba
  usage := .renderTarget
  name := "FramebufferView output"

def create (size : Size) : Except Error View :=
  match Texture.create (outputConfig size) none with
  | .ok output => .ok ⟨output, 0⟩
  | .error e => .error e

/-- Replaces the output. -/
def resize (v : View) (size : Size) : Except Error View :=
  match Texture.create (outputConfig size) none with
  | .ok output => .ok { v with output }
  | .error e => .error e

def size (v : View) : Size := v.output.size

/-- How many frames were presented, as far as they are counted. -/
def frames (v : View) : Nat := v.presented.toNat

/-- Shows the output: the view afterwards, and what was told. -/
def present (v : View) : View × Log :=
  ({ v with presented := v.presented + 1 }, [.presented (v.presented + 1)])

/-- **One more frame is counted**, up to the end of the word. -/
theorem frames_present (v : View) : v.present.1.frames = (v.frames + 1) % UInt64.size :=
  UInt64.toNat_add v.presented 1

/-- Blits a rectangle of a texture into a rectangle of the output. -/
def blitFrom (v : View) (src : Texture) (srcRect dstRect : Rect) : Except Error (View × Log) :=
  match blit src v.output srcRect dstRect with
  | .ok (output, log) => .ok ({ v with output }, log)
  | .error e => .error e

end View

end BlitDevice
