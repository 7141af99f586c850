import IndexExport.Calendar.Reading
import IndexExport.Filter.Failure
import IndexExport.Filter.Basic
import IndexExport.Text.Cleaning
/-!
# Query fragments

A filter's value is written by its kind: text is cleaned and put in parentheses, a date
becomes midnight in universal time, all else stays as it is. Field, operator and value
then make a fragment of the query. Kind and operator decide its form; some pairs have
none.
-/
set_option autoImplicit false

namespace IndexExport.Filter

def midnight (date : Calendar.Date) : String :=
  String.ofList date.render ++ "T00:00:00Z"

def writtenValue (f : Filter) : Except Failure String :=
  match f.kind with
  | .text | .combo => .ok ("(" ++ Text.cleanQuery f.value ++ ")")
  | .date =>
    match Calendar.read? f.value with
    | some date => .ok (midnight date)
    | none => .error (.invalidDate f.id f.value)
  | .number | .integer | .grouping | .other => .ok f.value

/-- The fragment of a field compared with a value, if the kind has this operator. -/
def fragmentWith (f : Filter) (value : String) : Option String :=
  match f.kind with
  | .date | .number | .integer =>
    match f.operator with
    | some .equals => some (f.field ++ ":\"" ++ value ++ "\"")
    | some .lessThan => some (f.field ++ ":[* TO " ++ value ++ "]")
    | some .greaterThan => some (f.field ++ ":[" ++ value ++ " TO *]")
    | _ => none
  | .grouping => some value
  | .text | .combo | .other =>
    match f.operator with
    | some .equals => some (f.field ++ ":" ++ value)
    | some .notEquals => some ("(*:* -" ++ f.field ++ ":" ++ value ++ ")")
    | _ => none

def fragment (f : Filter) : Except Failure (Option String) :=
  (writtenValue f).map (fragmentWith f)

/-- The fragment of a filter; an operator that its kind has not is a failure. -/
def fragmentOrFail (f : Filter) : Except Failure String :=
  match fragment f with
  | .error e => .error e
  | .ok none => .error (.unsupportedOperator f.id f.field)
  | .ok (some s) => .ok s

end IndexExport.Filter
