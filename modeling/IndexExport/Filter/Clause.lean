import IndexExport.Filter.Basic
import IndexExport.Filter.Failure
/-!
# Clause trees

A list of filters is read as a tree: a filter that is no parenthesis is a leaf, and the
clauses between two matching parentheses are a group. `build` keeps the groups that are
open on a stack, so they may be nested to any depth, and refuses a list in which a
parenthesis has no partner.
-/
set_option autoImplicit false

namespace IndexExport

inductive Filter.Clause where
  | leaf (filter : Filter)
  /-- The opening filter joins the whole group to the clause before it. -/
  | group (opener : Filter) (clauses : List Filter.Clause)
  deriving Repr, Inhabited

namespace Filter

def Clause.head : Clause → Filter
  | .leaf f => f
  | .group opener _ => opener

def Clause.join (c : Clause) : Option Join :=
  c.head.join

def Clause.id (c : Clause) : String :=
  c.head.id

/-- A group that is still open: its first filter, and the clauses before it in the
sequence around it, the last one first. -/
abbrev OpenGroup := Filter × List Clause

/-- Goes on with the remaining filters. `clauses` are those of the innermost open
sequence so far, the last one first. -/
def buildFrom : List OpenGroup → List Clause → List Filter → Except Failure (List Clause)
  | [], clauses, [] => .ok clauses.reverse
  | (opener, _) :: _, _, [] => .error (.unbalancedGrouping opener.id)
  | stack, clauses, f :: rest =>
    if f.kind ≠ .grouping then buildFrom stack (.leaf f :: clauses) rest
    else if f.opensGroup then buildFrom ((f, clauses) :: stack) [] rest
    else if f.closesGroup then
      match stack with
      | [] => .error (.unbalancedGrouping f.id)
      | (opener, before) :: outer => buildFrom outer (.group opener clauses.reverse :: before) rest
    else .error (.invalidGrouping f.id f.value)

def build (filters : List Filter) : Except Failure (List Clause) :=
  buildFrom [] [] filters

end Filter

end IndexExport
