import IndexExport.Storage.Tree
/-!
# What the writing of a page meets

The clock is read and the medium is used anew for each page. The medium may not let a file be
opened that the tree has room for, and it may break off while the file is written.
-/
set_option autoImplicit false

namespace IndexExport.Page

open Storage (Cause Content Place Tree)

/-- How far a file has come that is being written: so many documents have been gone through, or
all that is left is to close it. -/
inductive Stage where
  | documents (count : Nat)
  | closing
  deriving DecidableEq, Repr, Inhabited

/-- The medium takes the whole of a file, does not let it be opened, or breaks off. What is left
then is as a rule a beginning of the content, but nothing is promised of it. -/
inductive Medium where
  | takes
  | refuses (cause : Cause)
  | breaksOff (stage : Stage) (cause : Cause) (left : Content)
  deriving DecidableEq, Repr, Inhabited

def Medium.opens (medium : Medium) (tree : Tree) (path : String) : Except Cause Place :=
  match tree.openForWriting path with
  | .error cause => .error cause
  | .ok place =>
    match medium with
    | .refuses cause => .error cause
    | _ => .ok place

def Medium.holds : Medium → Bool
  | .breaksOff .. => false
  | _ => true

structure Occasion where
  moment : String
  medium : Medium
  deriving DecidableEq, Repr, Inhabited

end IndexExport.Page
