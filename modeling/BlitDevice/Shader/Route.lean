import BlitDevice.Shader.Program

/-!
# What a pair of programs draws

* `Route` — the emulations a draw can select.
* `Route.ofPrograms?` — a route needs the same program at both stages.
-/

set_option autoImplicit false

namespace BlitDevice

/-- What a draw is emulated as. -/
inductive Route where
  | texturedBlit | luma | chroma
  deriving DecidableEq, Repr

namespace Route

def name : Route → String
  | texturedBlit => "TexturedBlit"
  | luma => "Luma"
  | chroma => "Chroma"

/-- The route a vertex and a pixel program select together. -/
def ofPrograms? : Program → Program → Option Route
  | .defaultDraw, .defaultDraw => some texturedBlit
  | .nv12Y, .nv12Y => some luma
  | .nv12Uv, .nv12Uv => some chroma
  | _, _ => none

end Route

end BlitDevice
