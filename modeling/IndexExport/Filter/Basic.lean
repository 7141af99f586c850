import IndexExport.Text.Blank
/-!
# Search filters

A filter restricts one field of the index, or is one half of a pair of parentheses. It
names the operator that joins it to the filter before it.
-/
set_option autoImplicit false

namespace IndexExport

/-- What the value of a filter is; decides how it is written into the query. -/
inductive Filter.Kind where
  | text
  | combo
  | date
  | number
  | integer
  | grouping
  | other
  deriving DecidableEq, Repr, Inhabited

inductive Filter.Operator where
  | equals
  | notEquals
  | lessThan
  | greaterThan
  | unsupported
  deriving DecidableEq, Repr, Inhabited

inductive Filter.Join where
  | both
  | either
  | unrecognized
  deriving DecidableEq, Repr, Inhabited

structure Filter where
  id : String
  field : String
  kind : Filter.Kind
  operator : Option Filter.Operator
  value : String
  join : Option Filter.Join
  deriving DecidableEq, Repr, Inhabited

namespace Filter

def Join.lowered (cs : List Char) : List Char :=
  cs.map Char.toLower

/-- Reads an operator in either case. Blanks around it do not count, and blank text is no
operator. -/
def Join.read? (s : String) : Option Join :=
  match Join.lowered (Text.trim s.toList) with
  | [] => none
  | cs =>
    if cs = ['a', 'n', 'd'] then some .both
    else if cs = ['o', 'r'] then some .either
    else some .unrecognized

def Join.word : Join → String
  | .both => "AND"
  | .unrecognized => "AND"
  | .either => "OR"

def opensGroup (f : Filter) : Bool :=
  f.kind = .grouping && f.value = "("

def closesGroup (f : Filter) : Bool :=
  f.kind = .grouping && f.value = ")"

end Filter

end IndexExport
