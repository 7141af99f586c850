import IndexExport.Text.Split
/-!
# Paths of files

A path is text in which slashes separate the pieces. Empty pieces and pieces of one dot
name nothing of their own, except that a dot at the very start stands for the place to
start from. `parent?` cuts off the last piece that names something.
-/
set_option autoImplicit false

namespace IndexExport.Storage

def pieces (path : String) : List String :=
  (Text.splitBy (· = '/') path.toList).map String.ofList

def ofPieces (ps : List String) : String :=
  String.intercalate "/" ps

def isVoid (piece : String) : Bool :=
  piece = "" || piece = "."

def dropVoidEnd : List String → List String
  | [] => []
  | first :: rest => first :: (rest.reverse.dropWhile isVoid).reverse

/-- The path without its last piece that names something, and without void pieces before
that. Nothing is above the root, and nothing above the empty path. -/
def parent? (path : String) : Option String :=
  match dropVoidEnd (pieces path) with
  | [] => none
  | [first] => if first = "" then none else some ""
  | first :: rest =>
    match dropVoidEnd (first :: rest.dropLast) with
    | [""] => some "/"
    | shorter => some (ofPieces shorter)

/-- The paths above a path, the nearest first, up to but not including the empty path and
the root. -/
def above (fuel : Nat) (path : String) : List String :=
  match fuel with
  | 0 => []
  | fuel + 1 =>
    match parent? path with
    | none => []
    | some shorter =>
      if shorter = "" ∨ parent? shorter = none then [] else shorter :: above fuel shorter

def lineage (path : String) : List String :=
  path :: above path.length path

def join (directory name : String) : String :=
  if directory = "" ∨ directory.toList.getLast? = some '/' then directory ++ name
  else directory ++ "/" ++ name

end IndexExport.Storage
