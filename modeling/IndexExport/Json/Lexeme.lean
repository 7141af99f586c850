import IndexExport.Json.Numeral
/-!
# Lexemes of a JSON text

`scan` cuts a text into brackets, separators, literals, numerals and quoted texts, and
passes over the four blanks of the format. At the first place where none of them begins
it leaves the lexeme `malformed` and stops, so that a reader which goes through the
lexemes in order meets the fault where it stands.

A quoted text whose escapes leave half of a surrogate pair alone has no value; it is a
lexeme nevertheless, because a value that nobody asks for is passed over unread.
-/
set_option autoImplicit false

namespace IndexExport.Json

inductive Lexeme where
  | openList
  | closeList
  | openObject
  | closeObject
  | comma
  | colon
  | null
  | boolean (value : Bool)
  | numeral (spelling : Numeral)
  | text (value : Option String)
  | malformed
  deriving DecidableEq, Repr, Inhabited

def isJsonBlank (c : Char) : Bool :=
  c = ' ' || c = '\t' || c = '\n' || c = '\r'

/-! ## Quoted texts -/

/-- A unit of a quoted text: a character that stands for itself or a code unit given by
its number. -/
inductive TextUnit where
  | plain (c : Char)
  | coded (unit : Nat)
  deriving DecidableEq, Repr

def escapedChar? (c : Char) : Option Char :=
  if c = '"' then some '"'
  else if c = '\\' then some '\\'
  else if c = '/' then some '/'
  else if c = 'b' then some '\x08'
  else if c = 'f' then some '\x0c'
  else if c = 'n' then some '\n'
  else if c = 'r' then some '\r'
  else if c = 't' then some '\t'
  else none

def codeUnit? (a b c d : Char) : Option Nat := do
  let a ← Text.hexValue? a
  let b ← Text.hexValue? b
  let c ← Text.hexValue? c
  let d ← Text.hexValue? d
  return ((a * 16 + b) * 16 + c) * 16 + d

def quotedUnits : List Char → Option (List TextUnit × List Char)
  | [] => none
  | '"' :: rest => some ([], rest)
  | '\\' :: 'u' :: a :: b :: c :: d :: rest =>
    match codeUnit? a b c d, quotedUnits rest with
    | some unit, some (units, after) => some (.coded unit :: units, after)
    | _, _ => none
  | '\\' :: e :: rest =>
    match escapedChar? e, quotedUnits rest with
    | some c, some (units, after) => some (.plain c :: units, after)
    | _, _ => none
  | c :: rest =>
    if c.toNat < 0x20 then none
    else
      match quotedUnits rest with
      | some (units, after) => some (.plain c :: units, after)
      | none => none

def isHighSurrogate (unit : Nat) : Bool := 0xD800 ≤ unit && unit ≤ 0xDBFF

def isLowSurrogate (unit : Nat) : Bool := 0xDC00 ≤ unit && unit ≤ 0xDFFF

/-- The characters that the units stand for, unless a half of a surrogate pair stands
alone. -/
def joinUnits : List TextUnit → Option (List Char)
  | [] => some []
  | .plain c :: rest => (joinUnits rest).map (c :: ·)
  | .coded first :: .coded second :: rest =>
    if isHighSurrogate first then
      if isLowSurrogate second then
        (joinUnits rest).map
          (Char.ofNat (0x10000 + (first - 0xD800) * 0x400 + (second - 0xDC00)) :: ·)
      else none
    else if isLowSurrogate first then none
    else (joinUnits (.coded second :: rest)).map (Char.ofNat first :: ·)
  | .coded unit :: rest =>
    if isHighSurrogate unit || isLowSurrogate unit then none
    else (joinUnits rest).map (Char.ofNat unit :: ·)

/-! ## Numerals -/

def splitDigits (cs : List Char) : List Char × List Char :=
  (cs.takeWhile Char.isDigit, cs.dropWhile Char.isDigit)

/-- The digits before the point: a zero alone, or digits that do not begin with zero. -/
def wholePart? (cs : List Char) : Option (List Char × List Char) :=
  match splitDigits cs with
  | ([], _) => none
  | (['0'], rest) => some (['0'], rest)
  | ('0' :: _, _) => none
  | parts => some parts

def fractionPart? : List Char → Option (Option (List Char) × List Char)
  | '.' :: cs =>
    match splitDigits cs with
    | ([], _) => none
    | (ds, rest) => some (some ds, rest)
  | cs => some (none, cs)

def signedDigits? (cs : List Char) : Option ((Bool × List Char) × List Char) :=
  let (negative, unsigned) := match cs with
    | '-' :: rest => (true, rest)
    | '+' :: rest => (false, rest)
    | _ => (false, cs)
  match splitDigits unsigned with
  | ([], _) => none
  | (ds, rest) => some ((negative, ds), rest)

def exponentPart? : List Char → Option (Option (Bool × List Char) × List Char)
  | 'e' :: cs => (signedDigits? cs).map fun (e, rest) => (some e, rest)
  | 'E' :: cs => (signedDigits? cs).map fun (e, rest) => (some e, rest)
  | cs => some (none, cs)

def numeral? (cs : List Char) : Option (Numeral × List Char) := do
  let (negative, unsigned) := match cs with
    | '-' :: rest => (true, rest)
    | _ => (false, cs)
  let (whole, afterWhole) ← wholePart? unsigned
  let (fraction, afterFraction) ← fractionPart? afterWhole
  let (exponent, rest) ← exponentPart? afterFraction
  return (⟨negative, whole, fraction, exponent⟩, rest)

/-! ## Scanning -/

def lexeme : List Char → Lexeme × List Char
  | '[' :: rest => (.openList, rest)
  | ']' :: rest => (.closeList, rest)
  | '\x7b' :: rest => (.openObject, rest)
  | '\x7d' :: rest => (.closeObject, rest)
  | ',' :: rest => (.comma, rest)
  | ':' :: rest => (.colon, rest)
  | 'n' :: 'u' :: 'l' :: 'l' :: rest => (.null, rest)
  | 't' :: 'r' :: 'u' :: 'e' :: rest => (.boolean true, rest)
  | 'f' :: 'a' :: 'l' :: 's' :: 'e' :: rest => (.boolean false, rest)
  | '"' :: cs =>
    match quotedUnits cs with
    | some (units, rest) => (.text ((joinUnits units).map String.ofList), rest)
    | none => (.malformed, [])
  | cs =>
    match numeral? cs with
    | some (spelling, rest) => (.numeral spelling, rest)
    | none => (.malformed, [])

def scanFrom : Nat → List Char → List Lexeme
  | 0, _ => []
  | _, [] => []
  | fuel + 1, c :: cs =>
    if isJsonBlank c then scanFrom fuel cs
    else
      let (first, rest) := lexeme (c :: cs)
      first :: scanFrom fuel rest

/-- The lexemes of a text. Each takes up at least one character, so the length of the
text is enough fuel. -/
def scan (cs : List Char) : List Lexeme :=
  scanFrom cs.length cs

end IndexExport.Json
