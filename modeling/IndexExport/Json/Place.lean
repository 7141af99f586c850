import IndexExport.Json.Lexeme
/-!
# Places in a JSON text

A reader that goes through the lexemes in order knows how many of them are left, and no
more than that. A `Stop` says so, and `Stop.place` finds the line and the column in the
text.
-/
set_option autoImplicit false

namespace IndexExport.Json

/-- A line, counted from one, and the bytes of that line before the place. -/
structure Place where
  line : Nat
  column : Nat
  deriving DecidableEq, Repr, Inhabited

def Place.start : Place := ⟨1, 0⟩

def Place.advance (place : Place) (c : Char) : Place :=
  if c = '\n' then ⟨place.line + 1, 0⟩ else ⟨place.line, place.column + c.utf8Size⟩

def Place.endOf (cs : List Char) : Place :=
  cs.foldl Place.advance .start

def Place.words (place : Place) : String :=
  " at line " ++ toString place.line ++ " column " ++ toString place.column

/-- Where reading stopped when so many lexemes were left: right after the lexeme before
them, or right before the first of them. -/
inductive Stop where
  | after (unread : Nat)
  | before (unread : Nat)
  deriving DecidableEq, Repr

/-- What is left of a text at the start of each lexeme and at its end. -/
def edgesFrom : Nat → List Char → List (List Char × List Char)
  | 0, _ => []
  | _, [] => []
  | fuel + 1, c :: cs =>
    if isJsonBlank c then edgesFrom fuel cs
    else (c :: cs, (lexeme (c :: cs)).2) :: edgesFrom fuel (lexeme (c :: cs)).2

def Stop.left (cs : List Char) (stop : Stop) : List Char :=
  let fromLast := (edgesFrom cs.length cs).reverse
  match stop with
  | .after unread => (fromLast[unread]?.map Prod.snd).getD []
  | .before 0 => []
  | .before (unread + 1) => (fromLast[unread]?.map Prod.fst).getD []

def Stop.place (cs : List Char) (stop : Stop) : Place :=
  .endOf (cs.take (cs.length - (stop.left cs).length))

end IndexExport.Json
