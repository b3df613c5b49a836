/-!
# Shader identities

* `Program` — the programs the device knows how to emulate.
* `catalog` — which effect file and technique stand for which program.
* `Descriptor.split` — a descriptor `directory/file:technique` cut into file and technique.
* `ShaderKind.resolve` — the catalog looked up by both.
-/

set_option autoImplicit false

namespace BlitDevice

/-- The stage a shader runs in. -/
inductive ShaderStage where
  | vertex | fragment
  deriving DecidableEq, Repr

namespace ShaderStage

def all : List ShaderStage := [vertex, fragment]

def name : ShaderStage → String
  | vertex => "Vertex"
  | fragment => "Fragment"

end ShaderStage

/-- A program the device knows. -/
inductive Program where
  | defaultDraw | defaultDrawAlphaDivide | drawOpaque | solid | solidColored | solidRandom
  | nv12Y | nv12Uv
  deriving DecidableEq, Repr

namespace Program

def all : List Program :=
  [defaultDraw, defaultDrawAlphaDivide, drawOpaque, solid, solidColored, solidRandom, nv12Y, nv12Uv]

def name : Program → String
  | defaultDraw => "DefaultDraw"
  | defaultDrawAlphaDivide => "DefaultDrawAlphaDivide"
  | drawOpaque => "Opaque"
  | solid => "Solid"
  | solidColored => "SolidColored"
  | solidRandom => "SolidRandom"
  | nv12Y => "Nv12Y"
  | nv12Uv => "Nv12Uv"

end Program

/-- One row: an effect file, a technique in it, and what they draw. -/
structure CatalogRow where
  file : String
  technique : String
  program : Program
  deriving DecidableEq, Repr

/-- The effects that are recognised. -/
def catalog : List CatalogRow :=
  [⟨"default.effect", "Draw", .defaultDraw⟩,
    ⟨"default.effect", "DrawAlphaDivide", .defaultDrawAlphaDivide⟩,
    ⟨"opaque.effect", "Draw", .drawOpaque⟩,
    ⟨"solid.effect", "Solid", .solid⟩,
    ⟨"solid.effect", "SolidColored", .solidColored⟩,
    ⟨"solid.effect", "Random", .solidRandom⟩,
    ⟨"format_conversion.effect", "NV12_Y", .nv12Y⟩,
    ⟨"format_conversion.effect", "NV12_UV", .nv12Uv⟩]

/-- What comes after the last character of a class, or all of it. -/
def afterLast (sep : Char → Bool) (cs : List Char) : List Char :=
  (cs.reverse.takeWhile fun c => !sep c).reverse

/-- What comes before the last character of a class, or nothing. -/
def beforeLast (sep : Char → Bool) (cs : List Char) : List Char :=
  ((cs.reverse.dropWhile fun c => !sep c).drop 1).reverse

namespace Descriptor

/-- The mark between file and technique. -/
def isMark (c : Char) : Bool := c == ':'

/-- The marks between directories. -/
def isSeparator (c : Char) : Bool := c == '/' || c == '\\'

/-- File and technique: the last mark divides them, and the file starts after the last separator
before it. Without a mark there is no technique. -/
def splitChars (cs : List Char) : List Char × List Char :=
  if cs.any isMark then (afterLast isSeparator (beforeLast isMark cs), afterLast isMark cs)
  else (afterLast isSeparator cs, [])

def split (descriptor : String) : String × String :=
  let (file, technique) := splitChars descriptor.toList
  (String.ofList file, String.ofList technique)

end Descriptor

/-- What a shader was recognised as. -/
inductive ShaderKind where
  | unknown
  | known (program : Program) (stage : ShaderStage)
  deriving DecidableEq, Repr

namespace ShaderKind

def program? : ShaderKind → Option Program
  | unknown => none
  | known p _ => some p

/-- Looks file and technique up in the catalog. -/
def resolve (stage : ShaderStage) (descriptor : String) : ShaderKind :=
  let (file, technique) := Descriptor.split descriptor
  match catalog.find? fun row => row.file == file && row.technique == technique with
  | some row => known row.program stage
  | none => unknown

end ShaderKind

end BlitDevice
