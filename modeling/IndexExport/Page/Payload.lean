import IndexExport.Json.Value
/-!
# What a page is made of
-/
set_option autoImplicit false

namespace IndexExport.Page

/-- The documents of a page, or a table that the index has written itself. -/
inductive Payload where
  | documents (items : List Json)
  | tabular (body : String)
  deriving Repr, Inhabited, BEq

def Payload.kindName : Payload → String
  | .documents _ => "documents"
  | .tabular _ => "tabular"

end IndexExport.Page
