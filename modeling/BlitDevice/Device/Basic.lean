import BlitDevice.Context

/-!
# Devices

* `Device` — what it was asked for, and what its draws depend on.
* `Session` — a device and the memory its surfaces are in.
* `Outcome` — what a call on a session comes to: its answer, what was told, and the session
  afterwards. A call that fails tells its error last and leaves the session as it was.
-/

set_option autoImplicit false

namespace BlitDevice

/-- What a device was asked for; recorded only. -/
structure DeviceConfig where
  adapter : UInt32 := 0
  name : String := "cpu_gs"
  deriving DecidableEq, Repr

structure Device where
  config : DeviceConfig := {}
  context : DrawContext := {}
  deriving DecidableEq

namespace Device

/-- The name of every device. -/
def name : String := "CPU"

/-- The kind of every device. -/
def kind : String := "Cpu"

/-- The symbol shader sources can test for. -/
def preprocessorName : String := "_CPU"

end Device

/-- A device and the surfaces it works on. -/
structure Session where
  device : Device
  memory : Memory := {}
  deriving DecidableEq

/-- What a call comes to. -/
structure Outcome (α : Type) where
  answer : Except Error α
  log : Log
  session : Session

namespace Session

/-- A call that answers. -/
def done {α : Type} (s : Session) (a : α) (log : Log := []) : Outcome α := ⟨.ok a, log, s⟩

/-- A call that fails, after having told something. -/
def fail {α : Type} (s : Session) (e : Error) (log : Log := []) : Outcome α :=
  ⟨.error e, log ++ [.failed e], s⟩

/-- A call that changes memory, or fails. -/
def commit (s : Session) (log : Log) (result : Except Error (Memory × Log)) : Outcome Unit :=
  match result with
  | .ok (memory, more) => { s with memory }.done () (log ++ more)
  | .error e => s.fail e log

/-- Changes what draws depend on. -/
def modifyContext (s : Session) (f : DrawContext → DrawContext) : Session :=
  { s with device := { s.device with context := f s.device.context } }

def context (s : Session) : DrawContext := s.device.context

/-- A new device. -/
def create (config : DeviceConfig) (memory : Memory := {}) : Session × Log :=
  (⟨{ config }, memory⟩, [.rule, .initializing, .loaded])

end Session

end BlitDevice
