import IndexExport.Json.Value
import IndexExport.Decimal.Shortest
import IndexExport.Text.Digits
/-!
# Writing a JSON value

The compact form has no blanks. The pretty form puts every item and every member on a
line of its own, two spaces further in than the bracket around it; empty lists and objects
stay on one line. Inside quotes only the quote, the backslash and the controls below the
space are escaped.
-/
set_option autoImplicit false

namespace IndexExport.Json

def quotedChar (c : Char) : List Char :=
  if c = '"' then ['\\', '"']
  else if c = '\\' then ['\\', '\\']
  else if c = '\x08' then ['\\', 'b']
  else if c = '\x0c' then ['\\', 'f']
  else if c = '\n' then ['\\', 'n']
  else if c = '\r' then ['\\', 'r']
  else if c = '\t' then ['\\', 't']
  else if c.toNat < 0x20 then
    ['\\', 'u', '0', '0', Text.hexDigit (c.toNat / 16), Text.hexDigit (c.toNat % 16)]
  else [c]

def quoted (s : String) : List Char :=
  '"' :: s.toList.flatMap quotedChar ++ ['"']

def Number.render : Number → List Char
  | .whole n => Text.signedDecimal n
  | .double x => x.render

mutual

def compactChars : Json → List Char
  | .null => ['n', 'u', 'l', 'l']
  | .boolean true => ['t', 'r', 'u', 'e']
  | .boolean false => ['f', 'a', 'l', 's', 'e']
  | .number n => n.render
  | .text s => quoted s
  | .list items => '[' :: compactItems items
  | .object members => '\x7b' :: compactMembers members

def compactItems : List Json → List Char
  | [] => [']']
  | [item] => compactChars item ++ [']']
  | item :: next :: rest => compactChars item ++ ',' :: compactItems (next :: rest)

def compactMembers : List (String × Json) → List Char
  | [] => ['\x7d']
  | [(key, value)] => quoted key ++ ':' :: compactChars value ++ ['\x7d']
  | (key, value) :: next :: rest =>
    quoted key ++ ':' :: compactChars value ++ ',' :: compactMembers (next :: rest)

end

def newLine (depth : Nat) : List Char :=
  '\n' :: List.replicate (2 * depth) ' '

mutual

/-- The pretty form of a value inside `level` lists and objects. -/
def prettyChars (level : Nat) : Json → List Char
  | .null => ['n', 'u', 'l', 'l']
  | .boolean true => ['t', 'r', 'u', 'e']
  | .boolean false => ['f', 'a', 'l', 's', 'e']
  | .number n => n.render
  | .text s => quoted s
  | .list [] => ['[', ']']
  | .list (item :: rest) => '[' :: prettyItems (level + 1) (item :: rest)
  | .object [] => ['\x7b', '\x7d']
  | .object (member :: rest) => '\x7b' :: prettyMembers (level + 1) (member :: rest)

/-- Items on lines of their own, and the closing bracket on the line after them. -/
def prettyItems (level : Nat) : List Json → List Char
  | [] => newLine (level - 1) ++ [']']
  | [item] => newLine level ++ prettyChars level item ++ newLine (level - 1) ++ [']']
  | item :: next :: rest =>
    newLine level ++ prettyChars level item ++ ',' :: prettyItems level (next :: rest)

def prettyMembers (level : Nat) : List (String × Json) → List Char
  | [] => newLine (level - 1) ++ ['\x7d']
  | [(key, value)] =>
    newLine level ++ quoted key ++ ':' :: ' ' :: prettyChars level value ++
      newLine (level - 1) ++ ['\x7d']
  | (key, value) :: next :: rest =>
    newLine level ++ quoted key ++ ':' :: ' ' :: prettyChars level value ++
      ',' :: prettyMembers level (next :: rest)

end

def compact (value : Json) : String :=
  String.ofList (compactChars value)

def pretty (value : Json) : String :=
  String.ofList (prettyChars 0 value)

end IndexExport.Json
