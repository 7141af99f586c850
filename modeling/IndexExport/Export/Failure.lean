import IndexExport.Page.Writer
import IndexExport.Select.Failure
/-!
# What can go wrong in an export
-/
set_option autoImplicit false

namespace IndexExport.Export

inductive Failure where
  | request (failure : Select.Failure)
  | page (failure : Page.Failure)
  deriving Repr

def Failure.message : Failure → String
  | .request e => e.message
  | .page e => e.message

def Failure.causes : Failure → List String
  | .request e => e.causes
  | .page e => e.cause?.toList

end IndexExport.Export
