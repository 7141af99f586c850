/-!
# Removing a word from a text

`removeAll w` takes every occurrence of `w` out of a text in one pass from the left.
Occurrences that only arise when the pieces around a removed one come together stay.
-/
set_option autoImplicit false

namespace IndexExport.Text

/-- Drops `skip` characters first, then goes on looking for `word`. -/
def removeFrom (word : List Char) : Nat → List Char → List Char
  | _, [] => []
  | skip + 1, _ :: rest => removeFrom word skip rest
  | 0, c :: rest =>
    if word.isPrefixOf (c :: rest) then removeFrom word (word.length - 1) rest
    else c :: removeFrom word 0 rest

def removeAll (word cs : List Char) : List Char :=
  removeFrom word 0 cs

end IndexExport.Text
