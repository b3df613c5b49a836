import BlitDevice.Device.Basic
import BlitDevice.Draw

/-!
# Calls that change pixels

* `Session.clear`, `Session.copyTexture`, `Session.copyRegion`, `Session.stageTexture`,
  `Session.draw` — each changes one surface, or fails and changes none.
* `Session.present`, `Session.resize`, `Session.outputSize` — the loaded view.
-/

set_option autoImplicit false

namespace BlitDevice.Session

/-- Fills the render target. Without one, or when colour is not asked for, nothing happens. -/
def clear (s : Session) (flags : ClearFlags) (color : Vec4 Float32) : Outcome Unit :=
  match s.context.bindings.renderTarget with
  | some target => if flags.color then s.commit [] (s.memory.clear target color) else s.done ()
  | none => s.done ()

def copyTexture (s : Session) (dst src : TextureId) : Outcome Unit :=
  s.commit [] (s.memory.copyTexture dst src)

def copyRegion (s : Session) (dst src : TextureId) (region : Memory.Region) : Outcome Unit :=
  s.commit [] (s.memory.copyRegion dst src region)

def stageTexture (s : Session) (dst : StageId) (src : TextureId) : Outcome Unit :=
  s.commit [] (s.memory.stageTexture dst src)

/-- Emulates a draw. Once the shaders select an emulation, it is told which. -/
def draw (s : Session) (mode : DrawMode) (start count : UInt32) : Outcome Unit :=
  match s.context.route with
  | .error e => s.fail e
  | .ok route => s.commit [.drawing route] (s.context.emulate s.memory mode start count route)

/-- Shows the output of the loaded view. -/
def present (s : Session) : Outcome Unit :=
  match s.context.swapchain with
  | none => s.fail .noSwapchain
  | some id =>
    let (view, log) := (s.memory.view id).present
    { s with memory := s.memory.setView id view }.done () log

/-- Gives the loaded view a fresh output. -/
def resize (s : Session) (size : Size) : Outcome Unit :=
  match s.context.swapchain with
  | none => s.fail .noSwapchain
  | some id =>
    match (s.memory.view id).resize size with
    | .ok view => { s with memory := s.memory.setView id view }.done ()
    | .error e => s.fail e

/-- The size of the loaded view's output. -/
def outputSize (s : Session) : Outcome Size :=
  match s.context.swapchain with
  | none => s.fail .noSwapchain
  | some id => s.done (s.memory.view id).size

end BlitDevice.Session
