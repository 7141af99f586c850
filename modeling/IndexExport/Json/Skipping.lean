import IndexExport.Json.Lexeme
/-!
# Passing over a JSON value

`skipValue` finds the end of a value that nobody asks for. Only the order of the lexemes
counts: the depth is not limited, a numeral may be too large for a number, and a quoted
text need not have a value.
-/
set_option autoImplicit false

namespace IndexExport.Json

inductive SkipExpect where
  | value
  | itemOrClose
  | itemEnd
  | keyOrClose
  | key
  | colon
  | memberEnd
  deriving DecidableEq, Repr

inductive Bracket where
  | list
  | object
  deriving DecidableEq, Repr

inductive SkipReached where
  | more (expect : SkipExpect) (stack : List Bracket)
  | complete
  deriving DecidableEq, Repr

def skipSettle : List Bracket → SkipReached
  | [] => .complete
  | .list :: outer => .more .itemEnd outer
  | .object :: outer => .more .memberEnd outer

def skipBegin (stack : List Bracket) : Lexeme → Option SkipReached
  | .null => some (skipSettle stack)
  | .boolean _ => some (skipSettle stack)
  | .numeral _ => some (skipSettle stack)
  | .text _ => some (skipSettle stack)
  | .openList => some (.more .itemOrClose stack)
  | .openObject => some (.more .keyOrClose stack)
  | _ => none

def skipStep : SkipExpect → List Bracket → Lexeme → Option SkipReached
  | .value, stack, lexeme => skipBegin stack lexeme
  | .itemOrClose, stack, .closeList => some (skipSettle stack)
  | .itemOrClose, stack, lexeme => skipBegin (.list :: stack) lexeme
  | .itemEnd, stack, .comma => some (.more .value (.list :: stack))
  | .itemEnd, stack, .closeList => some (skipSettle stack)
  | .keyOrClose, stack, .closeObject => some (skipSettle stack)
  | .keyOrClose, stack, .text _ => some (.more .colon stack)
  | .key, stack, .text _ => some (.more .colon stack)
  | .colon, stack, .colon => some (.more .value (.object :: stack))
  | .memberEnd, stack, .comma => some (.more .key stack)
  | .memberEnd, stack, .closeObject => some (skipSettle stack)
  | _, _, _ => none

/-- Goes on until the value has ended; returns the lexemes after it. -/
def skipFrom : SkipExpect → List Bracket → List Lexeme → Option (List Lexeme)
  | _, _, [] => none
  | expect, stack, lexeme :: rest =>
    match skipStep expect stack lexeme with
    | none => none
    | some .complete => some rest
    | some (.more next nextStack) => skipFrom next nextStack rest

def skipValue (lexemes : List Lexeme) : Option (List Lexeme) :=
  skipFrom .value [] lexemes

end IndexExport.Json
