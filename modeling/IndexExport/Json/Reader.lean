import IndexExport.Json.Lexeme
/-!
# Reading a JSON value

The reader goes through the lexemes once. What it has read of the lists and objects that
are still open stands on a stack of frames, and `Expect` says what may come next. A list
or object opens only while fewer than `room` others are open around it.

`Json.read` asks for one value and nothing after it.
-/
set_option autoImplicit false

namespace IndexExport.Json

inductive Frame where
  /-- The items before the value, the last one first. -/
  | list (before : List Json)
  /-- The members before the value, and its key. -/
  | member (before : Members) (key : String)

inductive Expect where
  | value
  | itemOrClose
  | itemEnd (items : List Json)
  | keyOrClose
  | key (members : Members)
  | colon (members : Members) (key : String)
  | memberEnd (members : Members)

inductive Reached where
  | more (expect : Expect) (stack : List Frame)
  | complete (value : Json)

def settle (value : Json) : List Frame → Reached
  | [] => .complete value
  | .list before :: outer => .more (.itemEnd (value :: before)) outer
  | .member before key :: outer => .more (.memberEnd (before.put key value)) outer

def beginValue (room : Nat) (stack : List Frame) : Lexeme → Option Reached
  | .null => some (settle .null stack)
  | .boolean b => some (settle (.boolean b) stack)
  | .numeral n => n.value?.map fun v => settle (.number v) stack
  | .text (some s) => some (settle (.text s) stack)
  | .openList => if stack.length < room then some (.more .itemOrClose stack) else none
  | .openObject => if stack.length < room then some (.more .keyOrClose stack) else none
  | _ => none

def readStep (room : Nat) : Expect → List Frame → Lexeme → Option Reached
  | .value, stack, lexeme => beginValue room stack lexeme
  | .itemOrClose, stack, .closeList => some (settle (.list []) stack)
  | .itemOrClose, stack, lexeme => beginValue room (.list [] :: stack) lexeme
  | .itemEnd items, stack, .comma => some (.more .value (.list items :: stack))
  | .itemEnd items, stack, .closeList => some (settle (.list items.reverse) stack)
  | .keyOrClose, stack, .closeObject => some (settle (.object []) stack)
  | .keyOrClose, stack, .text (some key) => some (.more (.colon [] key) stack)
  | .key members, stack, .text (some key) => some (.more (.colon members key) stack)
  | .colon members key, stack, .colon => some (.more .value (.member members key :: stack))
  | .memberEnd members, stack, .comma => some (.more (.key members) stack)
  | .memberEnd members, stack, .closeObject => some (settle (.object members) stack)
  | _, _, _ => none

/-- Reads on until the value is complete; returns it with the lexemes after it. -/
def readFrom (room : Nat) : Expect → List Frame → List Lexeme → Option (Json × List Lexeme)
  | _, _, [] => none
  | expect, stack, lexeme :: rest =>
    match readStep room expect stack lexeme with
    | none => none
    | some (.complete value) => some (value, rest)
    | some (.more next nextStack) => readFrom room next nextStack rest

/-- The value at the start of the lexemes, with at most `room` lists and objects inside
one another. -/
def readValue (room : Nat) (lexemes : List Lexeme) : Option (Json × List Lexeme) :=
  readFrom room .value [] lexemes

def deepest : Nat := 127

def read (text : String) : Option Json :=
  match readValue deepest (scan text.toList) with
  | some (value, []) => some value
  | _ => none

end IndexExport.Json
