import IndexExport.Json.Mismatch
import IndexExport.Storage.Cause
/-!
# What can be wrong with filters
-/
set_option autoImplicit false

namespace IndexExport.Filter

inductive Failure where
  | unreadable (path : String) (cause : Storage.Cause)
  | unparsed (path : String) (fault : Json.Fault)
  | invalidDate (id value : String)
  | invalidGrouping (id value : String)
  | unbalancedGrouping (id : String)
  | unsupportedOperator (id field : String)
  | unrecognizedJoin (id : String)
  | missingJoin (id : String)
  deriving Repr

def Failure.message : Failure → String
  | .unreadable path cause => "Failed to read filters file " ++ path ++ ": " ++ cause.message
  | .unparsed path fault => "Failed to parse filters file " ++ path ++ ": " ++ fault.message
  | .invalidDate id value => "Filter '" ++ id ++ "' has an invalid date value '" ++ value ++ "'"
  | .invalidGrouping id value =>
    "Grouping filter '" ++ id ++ "' must have the value '(' or ')', got '" ++ value ++ "'"
  | .unbalancedGrouping id => "Unbalanced grouping at filter '" ++ id ++ "'"
  | .unsupportedOperator id field =>
    "Filter '" ++ id ++ "' on field '" ++ field ++ "' uses an operator not supported for its type"
  | .unrecognizedJoin id => "Filter '" ++ id ++ "' has a join operator other than AND or OR"
  | .missingJoin id => "Filter '" ++ id ++ "' is missing its join operator"

def Failure.cause? : Failure → Option String
  | .unreadable _ cause => some cause.message
  | .unparsed _ fault => some fault.message
  | _ => none

end IndexExport.Filter
