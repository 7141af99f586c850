import IndexExport.Filter.Clause
import IndexExport.Filter.Fragment
import IndexExport.Log.Notice
/-!
# From filters to the query

In structured mode the clause tree is written out: clauses of a sequence are joined by
their operators, groups stand in parentheses, and every fault is a failure.

In legacy mode the list is written out as it stands. A join is left out where
`positional` takes the filter for one that follows an opening parenthesis or is a closing
one, a filter whose kind has not its operator is dropped, and only a date that cannot be
read is a failure. What is dropped or guessed is told to the log.
-/
set_option autoImplicit false

namespace IndexExport.Filter

inductive Mode where
  | structured
  | legacy
  deriving DecidableEq, Repr, Inhabited

def Mode.name : Mode → String
  | .structured => "structured"
  | .legacy => "legacy"

def joinText (join : Join) : String :=
  " " ++ join.word ++ " "

/-- The operator before a clause that is not the first of its sequence. -/
def requiredJoin (id : String) : Option Join → Except Failure String
  | none => .error (.missingJoin id)
  | some .unrecognized => .error (.unrecognizedJoin id)
  | some join => .ok (joinText join)

/-! ## Structured mode -/

mutual

def renderClause : Clause → Except Failure String
  | .leaf f => fragmentOrFail f
  | .group _ clauses =>
    match renderFirst clauses with
    | .error e => .error e
    | .ok text => .ok ("(" ++ text ++ ")")

def renderFirst : List Clause → Except Failure String
  | [] => .ok ""
  | c :: rest =>
    match renderClause c with
    | .error e => .error e
    | .ok text =>
      match renderRest rest with
      | .error e => .error e
      | .ok more => .ok (text ++ more)

def renderRest : List Clause → Except Failure String
  | [] => .ok ""
  | c :: rest =>
    match requiredJoin c.id c.join with
    | .error e => .error e
    | .ok join =>
      match renderClause c with
      | .error e => .error e
      | .ok text =>
        match renderRest rest with
        | .error e => .error e
        | .ok more => .ok (join ++ text ++ more)

end

def compileStructured (filters : List Filter) : Except Failure String :=
  match build filters with
  | .error e => .error e
  | .ok clauses => renderFirst clauses

/-! ## Legacy mode -/

/-- The identifier of the filter before the first one called `id` among the filters after
`previous`. -/
def idBefore (id : String) (previous : Filter) : List Filter → Option String
  | [] => none
  | f :: rest => if f.id = id then some previous.id else idBefore id f rest

/-- Looks through the list for a `(` called `before` or a `)` called `id`, and says whether
the first one found is a parenthesis. -/
def firstParenthesis (before id : String) : List Filter → Bool
  | [] => false
  | f :: rest =>
    if f.value = "(" ∧ f.id = before then f.kind = .grouping
    else if f.value = ")" ∧ f.id = id then f.kind = .grouping
    else firstParenthesis before id rest

/-- The filter called `id` follows an opening parenthesis or is a closing one, as far as
identifiers tell. When no filter after the first has the identifier, the second one counts
as the filter before it. -/
def positional (filters : List Filter) (id : String) : Bool :=
  match filters with
  | first :: second :: rest =>
    firstParenthesis ((idBefore id first (second :: rest)).getD second.id) id filters
  | _ => false

def legacyJoin (filters : List Filter) (isFirst : Bool) (f : Filter) :
    String × List Log.Notice :=
  if isFirst || positional filters f.id then ("", [])
  else
    (joinText (f.join.getD .both),
      if f.join = some .unrecognized then [.joinUnrecognized f.id] else [])

def legacyFrom (filters : List Filter) (isFirst : Bool) :
    List Filter → Log.Told (Except Failure String)
  | [] => (.ok "", [])
  | f :: rest =>
    let (join, joinNotices) := legacyJoin filters isFirst f
    match fragment f with
    | .error e => (.error e, joinNotices)
    | .ok piece =>
      let dropped : List Log.Notice :=
        if piece.isNone then [.filterDropped f.id f.field] else []
      let (tail, tailNotices) := legacyFrom filters false rest
      (tail.map fun more => join ++ piece.getD "" ++ more, joinNotices ++ dropped ++ tailNotices)

def compileLegacy (filters : List Filter) : Log.Told (Except Failure String) :=
  legacyFrom filters true filters

/-! ## Either mode -/

def compileTold (mode : Mode) (filters : List Filter) : Log.Told (Except Failure String) :=
  match mode with
  | .structured => (compileStructured filters, [])
  | .legacy => compileLegacy filters

def compile (mode : Mode) (filters : List Filter) : Except Failure String :=
  (compileTold mode filters).1

end IndexExport.Filter
