import BlitDevice.Text.Hidden

/-!
# Quoted text

* `escaped` — one character as it stands between quotes: quotes, backslashes and the usual controls
  have a letter, every other character that would not show is written as a code.
* `quoted` — a text between double quotes.
-/

set_option autoImplicit false

namespace BlitDevice

/-- One character as it stands between quotes. -/
def escaped (c : Char) : List Char :=
  if c = '"' then ['\\', '"']
  else if c = '\\' then ['\\', '\\']
  else if c = '\t' then ['\\', 't']
  else if c = '\n' then ['\\', 'n']
  else if c = '\r' then ['\\', 'r']
  else if c = '\x00' then ['\\', '0']
  else if isHidden c then "\\u\x7b".toList ++ Nat.toDigits 16 c.toNat ++ "\x7d".toList
  else [c]

/-- A text between double quotes. -/
def quoted (s : String) : String := String.ofList ('"' :: s.toList.flatMap escaped ++ ['"'])

end BlitDevice
