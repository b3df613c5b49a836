import BlitDevice.Log
import BlitDevice.Matrix

/-!
# Shader parameters

* `ParamKind` — the slot a parameter writes, decided by its name.
* `ParamSlots` — one image and three colour vectors.
* `ParamSlots.set` — writes a slot. A name without a slot, and a value that does not fit its slot,
  are told and dropped.
-/

set_option autoImplicit false

namespace BlitDevice

/-- The slot a parameter writes. -/
inductive ParamKind where
  | image
  | colorVec (slot : Fin 3)
  | unknown
  deriving DecidableEq, Repr

namespace ParamKind

def all : List ParamKind := [image, colorVec 0, colorVec 1, colorVec 2, unknown]

def name : ParamKind → String
  | image => "Image"
  | colorVec slot => "ColorVec" ++ toString slot.val
  | unknown => "Unknown"

/-- The slot a name stands for. -/
def ofName (name : String) : ParamKind :=
  if name = "image" then image
  else if name = "color_vec0" then colorVec 0
  else if name = "color_vec1" then colorVec 1
  else if name = "color_vec2" then colorVec 2
  else unknown

end ParamKind

/-- A named parameter. -/
structure ShaderParam where
  kind : ParamKind
  name : String
  deriving DecidableEq, Repr

/-- The parameter a name stands for; it is the same for every shader. -/
def ShaderParam.ofName (name : String) : ShaderParam := ⟨ParamKind.ofName name, name⟩

/-- A value for a parameter, where images are known by handles of type `T`. No image unbinds. -/
inductive ParamValue (T : Type) where
  | image (texture : Option T)
  | vec4 (v : Vec4 Float32)
  deriving DecidableEq

/-- The values draws read. -/
structure ParamSlots (T : Type) where
  image : Option T
  colorVecs : Vector (Vec4 Float32) 3
  deriving DecidableEq

namespace ParamSlots

variable {T : Type}

def initial : ParamSlots T := ⟨none, Vector.replicate 3 Vec4.zero⟩

/-- Writes a value into the slot of a parameter: the slots afterwards, and what was told. -/
def set (s : ParamSlots T) (param : ShaderParam) (value : ParamValue T) : ParamSlots T × Log :=
  match param.kind, value with
  | .unknown, _ => (s, [.unknownParam param.name])
  | .image, .image texture => ({ s with image := texture }, [])
  | .colorVec slot, .vec4 v => ({ s with colorVecs := s.colorVecs.set slot v }, [])
  | .image, .vec4 _ | .colorVec _, .image _ => (s, [.unfitValue param.name])

/-- A colour vector; past the last slot it is zero. -/
def colorVec (s : ParamSlots T) (index : Nat) : Vec4 Float32 :=
  s.colorVecs[index]?.getD Vec4.zero

/-- Writing a colour vector changes that one only. -/
theorem colorVec_set (s : ParamSlots T) (slot : Fin 3) (v : Vec4 Float32) (index : Nat) :
    ({ s with colorVecs := s.colorVecs.set slot v slot.isLt } : ParamSlots T).colorVec index =
      if slot.val = index then v else s.colorVec index := by
  rw [colorVec, colorVec, Vector.getElem?_set]
  by_cases h : slot.val = index
  · rw [if_pos h, if_pos h, Option.getD_some]
  · rw [if_neg h, if_neg h]

end ParamSlots

end BlitDevice
