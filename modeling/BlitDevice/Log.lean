import BlitDevice.Error
import BlitDevice.Rect
import BlitDevice.Sampler
import BlitDevice.Shader.Route

/-!
# Log records

* `Record` — everything the device tells, as data.
* `Record.level`, `Record.text` — how loud it is and how it reads.
-/

set_option autoImplicit false

namespace BlitDevice

/-- How loud a record is. -/
inductive Level where
  | info | warn | error | trace
  deriving DecidableEq, Repr

def Level.name : Level → String
  | info => "info"
  | warn => "warn"
  | error => "error"
  | trace => "trace"

/-- One thing the device told. -/
inductive Record where
  | rule
  | initializing
  | loaded
  | filterIgnored (filter : SampleFilter)
  | unknownShader (descriptor : String)
  | unknownParam (name : String)
  | unfitValue (name : String)
  | failed (error : Error)
  | drawing (route : Route)
  | blitting (src dst : Rect)
  | presented (frame : UInt64)
  deriving DecidableEq, Repr

/-- What a call told, first to last. -/
abbrev Log := List Record

namespace Record

def level : Record → Level
  | rule | initializing | loaded | filterIgnored _ => .info
  | unknownShader _ | unknownParam _ | unfitValue _ => .warn
  | failed _ => .error
  | drawing _ | blitting _ _ | presented _ => .trace

def text : Record → String
  | rule => "---------------------------------"
  | initializing => "Initializing CPU Renderer..."
  | loaded => "CPU Renderer loaded."
  | filterIgnored f => "Sampler filter " ++ f.name ++ " requested; sampling stays nearest-neighbor"
  | unknownShader descriptor => "Unknown shader " ++ quoted descriptor
  | unknownParam name => "Ignoring unknown shader parameter " ++ quoted name
  | unfitValue name => "Ignoring value of the wrong type for parameter " ++ quoted name
  | failed e => e.text
  | drawing route => "draw " ++ route.name
  | blitting src dst => "blit " ++ src.text ++ " -> " ++ dst.text
  | presented frame => s!"presented frame {frame}"

end Record

/-- What creating a sampler tells: any filter but the nearest texel is passed over. -/
def Sampler.log (s : Sampler) : Log :=
  if s.filter = .point then [] else [.filterIgnored s.filter]

end BlitDevice
