/-!
# Walking with a cursor

The index answers each page with the cursor of the next one, and repeats the cursor that
was sent when there is none. The walk starts at `*` on page 1. Pages are counted in a word
of 32 bits.
-/
set_option autoImplicit false

namespace IndexExport.Export

/-- A position in a walk: the cursor that asks for the page, the cursor before it (empty
on page 1), the number of the page, and whether the index has repeated a cursor. -/
structure Cursor where
  current : String
  previous : String
  page : UInt32
  done : Bool
  deriving DecidableEq, Repr, Inhabited

namespace Cursor

def first : String := "*"

def start : Cursor := ⟨first, "", 1, false⟩

def advance (next : String) (c : Cursor) : Cursor :=
  if next = c.current then { c with done := true }
  else { c with previous := c.current, current := next, page := c.page + 1 }

end Cursor

end IndexExport.Export
