import IndexExport.Text.Alphanumeric
import IndexExport.Text.Blank
import IndexExport.Text.Split
/-!
# The environment

Variables may also stand in a file, one `name=value` a line. A variable that has a value
keeps it. Values may be quoted, may go over several lines inside quotes, and may refer to
variables that have a value already. The first line that cannot be read ends the file, and
what came before it stays.
-/
set_option autoImplicit false

namespace IndexExport.Settings

abbrev Environment := List (String × String)

namespace Environment

def get? (name : String) : Environment → Option String
  | [] => none
  | (n, v) :: rest => if n = name then some v else get? name rest

def supply (environment : Environment) (name value : String) : Environment :=
  if (environment.get? name).isSome then environment else environment ++ [(name, value)]

/-! ## Lines -/

inductive Place where
  | plain
  | blank
  | escape
  | single
  | singleEscape
  | double
  | doubleEscape
  deriving DecidableEq, Repr

def opens (c : Char) : Place :=
  if c = '\\' then .escape
  else if c = '"' then .double
  else if c = '\'' then .single
  else .plain

/-- Goes over a line. Returns what its end is in, or, at a comment, the text before it. -/
def scanLine : Place → List Char → Place ⊕ List Char
  | place, [] => .inl place
  | place, c :: rest =>
    let next :=
      match place with
      | .plain =>
        if Text.isBlank c && c ≠ '\n' && c ≠ '\r' then .blank else opens c
      | .blank => opens c
      | .escape => .plain
      | .single => if c = '\\' then .singleEscape else if c = '\'' then .plain else .single
      | .singleEscape => .single
      | .double => if c = '\\' then .doubleEscape else if c = '"' then .plain else .double
      | .doubleEscape => .double
    if place = .blank ∧ c = '#' then .inr []
    else
      match scanLine next rest with
      | .inl place => .inl place
      | .inr before => .inr (c :: before)

def withoutLineEnd (cs : List Char) : List Char :=
  match cs.reverse with
  | '\n' :: '\r' :: rest => rest.reverse
  | '\n' :: rest => rest.reverse
  | _ => cs

/-- Puts lines together where the end of one is inside quotes. `none` stands for a file
that ends so. -/
def joinLines (pending : List Char) (place : Place) : List (List Char) → List (Option (List Char))
  | [] => if place = .plain then [] else [none]
  | line :: rest =>
    if (Text.trimStart (pending ++ line)).head? = some '#' then
      some [] :: joinLines [] .plain rest
    else
      match scanLine place line with
      | .inr before => some (pending ++ before) :: joinLines [] .plain rest
      | .inl .plain => some (withoutLineEnd (pending ++ line)) :: joinLines [] .plain rest
      | .inl next => joinLines (pending ++ line) next rest

/-! ## Values -/

inductive Quote where
  | outside
  | double
  | single
  deriving DecidableEq, Repr

/-- What the next character of a value belongs to. -/
inductive Mode where
  | text
  | escaped
  | name
  | bracedName
  | ending
  deriving DecidableEq, Repr

def lookUp (environment : Environment) (name : List Char) : List Char :=
  ((environment.get? (String.ofList name.reverse)).getD "").toList

def escapedChar? (c : Char) : Option Char :=
  if c = 'n' then some '\n'
  else if c = '\\' ∨ c = '\'' ∨ c = '"' ∨ c = '$' ∨ c = ' ' then some c
  else none

/-- Reads a value from some place on; `name` is the name of the variable that is being
read, its last character first. -/
def readValue (environment : Environment) (quote : Quote) (mode : Mode) (name : List Char) :
    List Char → Option (List Char)
  | [] =>
    if mode = .bracedName ∨ quote ≠ .outside then none
    else some (if mode = .name then lookUp environment name else [])
  | c :: rest =>
    match mode with
    | .ending =>
      if c = ' ' ∨ c = '\t' then readValue environment quote .ending [] rest
      else if c = '#' then some []
      else none
    | .escaped =>
      match escapedChar? c with
      | some e => (readValue environment quote .text [] rest).map (e :: ·)
      | none => none
    | .name =>
      if Text.isAlphanumeric c then readValue environment quote .name (c :: name) rest
      else if c = '\x7b' ∧ name = [] then readValue environment quote .bracedName [] rest
      else if c = '$' then
        (readValue environment quote .name [] rest).map (lookUp environment name ++ ·)
      else
        (readValue environment quote .text [] rest).map
          (lookUp environment name ++ c :: ·)
    | .bracedName =>
      if c = '\x7d' then
        (readValue environment quote .text [] rest).map (lookUp environment name ++ ·)
      else readValue environment quote .bracedName (c :: name) rest
    | .text =>
      match quote with
      | .single =>
        if c = '\'' then readValue environment .outside .text [] rest
        else (readValue environment quote .text [] rest).map (c :: ·)
      | .double =>
        if c = '$' then readValue environment quote .name [] rest
        else if c = '"' then readValue environment .outside .text [] rest
        else if c = '\\' then readValue environment quote .escaped [] rest
        else (readValue environment quote .text [] rest).map (c :: ·)
      | .outside =>
        if c = '$' then readValue environment quote .name [] rest
        else if c = '\'' then readValue environment .single .text [] rest
        else if c = '"' then readValue environment .double .text [] rest
        else if c = '\\' then readValue environment quote .escaped [] rest
        else if c = ' ' ∨ c = '\t' then readValue environment quote .ending [] rest
        else (readValue environment quote .text [] rest).map (c :: ·)

/-! ## Variables -/

def readName (cs : List Char) : Option (List Char × List Char) :=
  match cs with
  | c :: _ =>
    if c.isAlpha ∨ c = '_' then
      some (Text.breakAt (fun c => !(c.isAlphanum || c = '_' || c = '.')) cs)
    else none
  | [] => none

def afterEquals : List Char → Option (List Char)
  | '=' :: rest => some rest
  | _ => none

/-- The name of a line, and the text of its value. A name may have `export` in front. -/
def nameAndValue (cs : List Char) : Option (List Char × List Char) := do
  let (first, rest) ← readName cs
  let rest := Text.trimStart rest
  match afterEquals rest with
  | some value => return (first, Text.trimStart value)
  | none =>
    if first = "export".toList then
      let (second, rest) ← readName rest
      let value ← afterEquals (Text.trimStart rest)
      return (second, Text.trimStart value)
    else none

def readLine (environment : Environment) (line : List Char) : Option Environment :=
  let text := Text.trimStart (Text.trimEnd line)
  if text = [] ∨ text.head? = some '#' then some environment
  else do
    let (name, value) ← nameAndValue text
    let content ←
      if value = [] ∨ value.head? = some '#' then some []
      else readValue environment .outside .text [] value
    return environment.supply (String.ofList name) (String.ofList content)

/-- Reads lines up to the first that cannot be read. -/
def readLines (environment : Environment) : List (Option (List Char)) → Environment
  | [] => environment
  | none :: _ => environment
  | some line :: rest =>
    match readLine environment line with
    | some more => readLines more rest
    | none => environment

def readFile (environment : Environment) (text : String) : Environment :=
  let chars :=
    match text.toList with
    | '\uFEFF' :: cs => cs
    | cs => cs
  readLines environment (joinLines [] .plain (Text.splitAfter (· = '\n') chars))

end Environment

end IndexExport.Settings
