/-!
# Samplers

* `Sampler` — how a texture would be filtered and addressed. Every path samples the nearest texel,
  so a sampler is recorded and otherwise ignored.
-/

set_option autoImplicit false

namespace BlitDevice

inductive SampleFilter where
  | point | linear | anisotropic
  deriving DecidableEq, Repr

namespace SampleFilter

def all : List SampleFilter := [point, linear, anisotropic]

def name : SampleFilter → String
  | point => "Point"
  | linear => "Linear"
  | anisotropic => "Anisotropic"

end SampleFilter

inductive AddressMode where
  | clamp | wrap | mirror | border
  deriving DecidableEq, Repr

namespace AddressMode

def all : List AddressMode := [clamp, wrap, mirror, border]

def name : AddressMode → String
  | clamp => "Clamp"
  | wrap => "Wrap"
  | mirror => "Mirror"
  | border => "Border"

end AddressMode

/-- How a texture would be filtered and addressed; the border colour is packed, alpha first. -/
structure Sampler where
  filter : SampleFilter
  addressU : AddressMode
  addressV : AddressMode
  addressW : AddressMode
  maxAnisotropy : UInt32
  borderColor : UInt32
  deriving DecidableEq, Repr

end BlitDevice
