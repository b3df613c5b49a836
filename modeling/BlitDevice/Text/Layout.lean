/-!
# One-line layouts of values

* `braced` — a name with named fields.
* `bracedOpen` — the same, with more fields left out.
* `called` — a name with unnamed fields.
* `listed`, `optional`, `switched` — lists, optional values and truth values.
-/

set_option autoImplicit false

namespace BlitDevice

def commas (parts : List String) : String := ", ".intercalate parts

/-- Fields written `name: value`. -/
def fieldTexts (fields : List (String × String)) : List String :=
  fields.map fun (name, value) => name ++ ": " ++ value

def braced (name : String) (fields : List (String × String)) : String :=
  name ++ " \x7b " ++ commas (fieldTexts fields) ++ " \x7d"

def bracedOpen (name : String) (fields : List (String × String)) : String :=
  name ++ " \x7b " ++ commas (fieldTexts fields ++ [".."]) ++ " \x7d"

def called (name : String) (parts : List String) : String := name ++ "(" ++ commas parts ++ ")"

def listed (parts : List String) : String := "[" ++ commas parts ++ "]"

def optional : Option String → String
  | none => "None"
  | some s => called "Some" [s]

def switched (b : Bool) : String := if b then "true" else "false"

end BlitDevice
