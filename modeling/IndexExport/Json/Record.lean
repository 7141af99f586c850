import IndexExport.Json.Mismatch
import IndexExport.Json.Reader
import IndexExport.Json.Skipping
/-!
# Records of two fields

A record of two optional fields is read in one pass over the lexemes. It may be written as
an object, with other members passed over, or as a list of its fields in order, with
fields missing at the end. `null` is the same as a missing field. The first fault on the
way decides: a field of the wrong kind is complained of before what follows it is looked
at, and a field that is there twice right after its second key.
-/
set_option autoImplicit false

namespace IndexExport.Json

inductive Trouble where
  | notJson
  | mismatch (mismatch : Mismatch) (stop : Stop)
  deriving Repr

def Trouble.fault (cs : List Char) : Trouble → Fault
  | .notJson => .notJson
  | .mismatch m stop => .mismatch m (some (stop.place cs))

abbrev Reading (α : Type) := List Lexeme → Except Trouble (α × List Lexeme)

/-- The trouble with lexemes that begin with something else than was asked for. It stands
after a scalar, and before a list or an object. -/
def complaint (expected : Shape) : List Lexeme → Trouble
  | .null :: rest => .mismatch (.wrongKind .null expected) (.after rest.length)
  | .boolean b :: rest => .mismatch (.wrongKind (.boolean b) expected) (.after rest.length)
  | .numeral n :: rest =>
    match n.value? with
    | some v => .mismatch (.wrongKind (.number v) expected) (.after rest.length)
    | none => .notJson
  | .text (some s) :: rest => .mismatch (.wrongKind (.text s) expected) (.after rest.length)
  | .openList :: rest => .mismatch (.wrongKind .list expected) (.before (rest.length + 1))
  | .openObject :: rest => .mismatch (.wrongKind .object expected) (.before (rest.length + 1))
  | _ => .notJson

def orNull {α : Type} (read : Reading α) : Reading (Option α)
  | .null :: rest => .ok (none, rest)
  | lexemes => (read lexemes).map fun (value, rest) => (some value, rest)

def readText : Reading String
  | .text (some s) :: rest => .ok (s, rest)
  | lexemes => .error (complaint .text lexemes)

def readCount : Reading Nat
  | .numeral n :: rest =>
    match n.value? with
    | some (.whole (.ofNat value)) => .ok (value, rest)
    | some (.whole value) => .error (.mismatch (.negativeCount value) (.after rest.length))
    | _ => .error (complaint .count (.numeral n :: rest))
  | lexemes => .error (complaint .count lexemes)

def readAny (room : Nat) : Reading Json := fun lexemes =>
  match readValue room lexemes with
  | some result => .ok result
  | none => .error .notJson

structure Record (α β : Type) where
  shape : Shape
  firstName : String
  readFirst : Reading α
  secondName : String
  readSecond : Reading β

namespace Record

variable {α β : Type}

/-- The fields of a record that were read so far; a field that is `null` was read too. -/
structure Seen (α β : Type) where
  first : Option (Option α)
  second : Option (Option β)

def afterColon {γ : Type} (read : Reading γ) : Reading γ
  | .colon :: rest => read rest
  | _ => .error .notJson

def passOver : Reading Unit := fun lexemes =>
  match skipValue lexemes with
  | some rest => .ok ((), rest)
  | none => .error .notJson

/-- Where a field that is there twice is complained of: before what follows its key, or
after that if it closes the object. -/
def stopAfterKey : List Lexeme → Stop
  | .closeObject :: rest => .after rest.length
  | rest => .before rest.length

def readMember (r : Record α β) (seen : Seen α β) : Reading (Seen α β)
  | .text (some key) :: rest =>
    if key = r.firstName then
      if seen.first.isSome then .error (.mismatch (.repeatedField key) (stopAfterKey rest))
      else
        (afterColon (orNull r.readFirst) rest).map fun (value, rest) =>
          ({ seen with first := some value }, rest)
    else if key = r.secondName then
      if seen.second.isSome then .error (.mismatch (.repeatedField key) (stopAfterKey rest))
      else
        (afterColon (orNull r.readSecond) rest).map fun (value, rest) =>
          ({ seen with second := some value }, rest)
    else (afterColon passOver rest).map fun (_, rest) => (seen, rest)
  | _ => .error .notJson

def readMembers (r : Record α β) : Nat → Seen α β → Reading (Seen α β)
  | 0, _, _ => .error .notJson
  | fuel + 1, seen, lexemes =>
    match r.readMember seen lexemes with
    | .error e => .error e
    | .ok (more, .comma :: rest) => readMembers r fuel more rest
    | .ok (more, .closeObject :: rest) => .ok (more, rest)
    | .ok _ => .error .notJson

def Seen.values (seen : Seen α β) : Option α × Option β :=
  (seen.first.join, seen.second.join)

/-- The fields of an object after its brace. Each member takes up lexemes, so their number
is enough fuel. -/
def readObject (r : Record α β) : Reading (Option α × Option β)
  | .closeObject :: rest => .ok ((none, none), rest)
  | lexemes =>
    (r.readMembers lexemes.length ⟨none, none⟩ lexemes).map fun (seen, rest) =>
      (seen.values, rest)

def readSecondItem (r : Record α β) (first : Option α) : Reading (Option α × Option β)
  | .closeList :: rest => .ok ((first, none), rest)
  | .comma :: rest =>
    match orNull r.readSecond rest with
    | .error e => .error e
    | .ok (second, .closeList :: rest) => .ok ((first, second), rest)
    | .ok _ => .error .notJson
  | _ => .error .notJson

def readList (r : Record α β) : Reading (Option α × Option β)
  | .closeList :: rest => .ok ((none, none), rest)
  | lexemes =>
    match orNull r.readFirst lexemes with
    | .error e => .error e
    | .ok (first, rest) => r.readSecondItem first rest

def read (r : Record α β) : Reading (Option α × Option β)
  | .openObject :: rest => r.readObject rest
  | .openList :: rest => r.readList rest
  | lexemes => .error (complaint r.shape lexemes)

end Record

end IndexExport.Json
