import IndexExport.Storage.Cause
import IndexExport.Storage.Content
import IndexExport.Storage.Path
/-!
# A tree of files and directories

A tree says what stands at each place under its root. A place is the list of names on the
way from the root; the root itself is always a directory. `Tree.at?` is the view: `put`
changes it at one place and nowhere else.

A path is walked piece by piece from the root, and every piece needs a directory to stand
in. What the walk meets first decides why an operation is refused.
-/
set_option autoImplicit false

namespace IndexExport.Storage

inductive Entry where
  | directory
  | file (content : Content)
  deriving DecidableEq, Repr, Inhabited

/-- The names on the way from the root. -/
abbrev Place := List String

structure Tree where
  entries : List (Place × Entry)
  deriving Repr, Inhabited

namespace Tree

def empty : Tree := ⟨[]⟩

def entryAt (place : Place) : List (Place × Entry) → Option Entry
  | [] => none
  | (p, e) :: rest => if p = place then some e else entryAt place rest

def putEntry (place : Place) (entry : Entry) : List (Place × Entry) → List (Place × Entry)
  | [] => [(place, entry)]
  | (p, e) :: rest =>
    if p = place then (p, entry) :: rest else (p, e) :: putEntry place entry rest

def at? (tree : Tree) (place : Place) : Option Entry :=
  if place = [] then some .directory else entryAt place tree.entries

def put (tree : Tree) (place : Place) (entry : Entry) : Tree :=
  ⟨putEntry place entry tree.entries⟩

def isDirectoryAt (tree : Tree) (place : Place) : Bool :=
  tree.at? place = some .directory

/-! ## Walking -/

def longestName : Nat := 255

def longestPath : Nat := 4095

def stepInto (tree : Tree) (place : Place) (piece : String) : Except Cause Place :=
  if !tree.isDirectoryAt place then .error .notADirectory
  else if isVoid piece then .ok place
  else if piece = ".." then .ok place.dropLast
  else if longestName < piece.utf8ByteSize then .error .nameTooLong
  else if (tree.at? (place ++ [piece])).isSome then .ok (place ++ [piece])
  else .error .notFound

def walk (tree : Tree) : Place → List String → Except Cause Place
  | place, [] => .ok place
  | place, piece :: rest =>
    match tree.stepInto place piece with
    | .error cause => .error cause
    | .ok next => walk tree next rest

def admitted (path : String) : Except Cause (List String) :=
  if path.toList.elem '\x00' then .error .nulInPath
  else if path = "" then .error .notFound
  else if longestPath < path.utf8ByteSize then .error .nameTooLong
  else .ok (pieces path)

def find (tree : Tree) (path : String) : Except Cause Place :=
  match admitted path with
  | .error cause => .error cause
  | .ok ps => tree.walk [] ps

def isDirectory (tree : Tree) (path : String) : Bool :=
  match tree.find path with
  | .ok place => tree.isDirectoryAt place
  | .error _ => false

def read (tree : Tree) (path : String) : Except Cause Content :=
  match tree.find path with
  | .error cause => .error cause
  | .ok place =>
    match tree.at? place with
    | some (.file content) => .ok content
    | some .directory => .error .isADirectory
    | none => .error .notFound

def readText (tree : Tree) (path : String) : Except Cause String :=
  match tree.read path with
  | .error cause => .error cause
  | .ok (.text s) => .ok s
  | .ok (.bytes _) => .error .notUtf8

/-! ## Making entries -/

/-- Where a path asks for an entry: the place of a name in a directory, or, where the path
ends with dots, a directory that is there. -/
inductive Target where
  | name (place : Place) (endsWithSlash : Bool)
  | dots

/-- The pieces before the last that is not empty, that piece, and whether empty pieces
follow it. -/
def splitLast (ps : List String) : Option (List String × String × Bool) :=
  match ps.reverse.dropWhile (· = "") with
  | [] => none
  | last :: before => some (before.reverse, last, ps.getLast? = some "")

def target (tree : Tree) (path : String) : Except Cause Target :=
  match admitted path with
  | .error cause => .error cause
  | .ok ps =>
    match splitLast ps with
    | none => .ok .dots
    | some (before, last, endsWithSlash) =>
      match tree.walk [] before with
      | .error cause => .error cause
      | .ok place =>
        if !tree.isDirectoryAt place then .error .notADirectory
        else if last = "." ∨ last = ".." then .ok .dots
        else .ok (.name (place ++ [last]) endsWithSlash)

def nameTooLong (place : Place) : Bool :=
  longestName < (place.getLast?.getD "").utf8ByteSize

/-- The place of the file that is written when a path is opened for writing. -/
def openForWriting (tree : Tree) (path : String) : Except Cause Place :=
  match tree.target path with
  | .error cause => .error cause
  | .ok .dots => .error .isADirectory
  | .ok (.name place endsWithSlash) =>
    if endsWithSlash then .error .isADirectory
    else if nameTooLong place then .error .nameTooLong
    else if tree.isDirectoryAt place then .error .isADirectory
    else .ok place

def makeDirectory (tree : Tree) (path : String) : Except Cause Tree :=
  match tree.target path with
  | .error cause => .error cause
  | .ok .dots => .error .alreadyThere
  | .ok (.name place _) =>
    if nameTooLong place then .error .nameTooLong
    else if (tree.at? place).isSome then .error .alreadyThere
    else .ok (tree.put place .directory)

inductive Made where
  | done (tree : Tree)
  | parentMissing
  | failed (cause : Cause)

def attempt (tree : Tree) (path : String) : Made :=
  match tree.makeDirectory path with
  | .ok more => .done more
  | .error .notFound => .parentMissing
  | .error .alreadyThere => if tree.isDirectory path then .done tree else .failed .alreadyThere
  | .error cause => .failed cause

/-- Goes up from a path until a directory is made or found. Returns the tree then and the
paths that are still missing, the uppermost first. -/
def climb (tree : Tree) (missing : List String) :
    List String → Except Cause (Tree × List String)
  | [] => .ok (tree, missing)
  | path :: rest =>
    match tree.attempt path with
    | .done more => .ok (more, missing)
    | .parentMissing => climb tree (path :: missing) rest
    | .failed cause => .error cause

/-- Makes the missing directories. What was made before a refusal stays. -/
def descend (tree : Tree) : List String → Tree × Except Cause Unit
  | [] => (tree, .ok ())
  | path :: rest =>
    match tree.attempt path with
    | .done more => descend more rest
    | .parentMissing => (tree, .error .notFound)
    | .failed cause => (tree, .error cause)

def makeDirectories (tree : Tree) (path : String) : Tree × Except Cause Unit :=
  if path = "" ∨ parent? path = none then (tree, .ok ())
  else
    match tree.climb [] (lineage path) with
    | .error cause => (tree, .error cause)
    | .ok (more, missing) => more.descend missing

/-! ## Listing -/

def children (tree : Tree) (place : Place) : List (String × Entry) :=
  tree.entries.filterMap fun (p, e) =>
    match p.getLast? with
    | some name => if p.dropLast = place then some (name, e) else none
    | none => none

def list (tree : Tree) (path : String) : List (String × Entry) :=
  match tree.find path with
  | .ok place => if tree.isDirectoryAt place then tree.children place else []
  | .error _ => []

end Tree

end IndexExport.Storage
