import IndexExport.Text.Digits
import IndexExport.Text.Hidden
/-!
# Texts as they are quoted in messages

`inspected` puts a text between double quotes so that each character can be made out:
the quote and the backslash are escaped, the common controls have a letter, and every
other hidden character is written by its number.
-/
set_option autoImplicit false

namespace IndexExport.Text

def hexadecimal (n : Nat) : List Char :=
  Nat.toDigits 16 n

def inspectedChar (c : Char) : List Char :=
  if c = '\x00' then ['\\', '0']
  else if c = '\t' then ['\\', 't']
  else if c = '\r' then ['\\', 'r']
  else if c = '\n' then ['\\', 'n']
  else if c = '\\' then ['\\', '\\']
  else if c = '"' then ['\\', '"']
  else if isHidden c then ['\\', 'u', '\x7b'] ++ hexadecimal c.toNat ++ ['\x7d']
  else [c]

/-- The text between double quotes, with hidden characters spelled out. -/
def inspected (s : String) : String :=
  String.ofList ('"' :: s.toList.flatMap inspectedChar ++ ['"'])

end IndexExport.Text
