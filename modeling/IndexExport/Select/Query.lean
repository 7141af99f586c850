import IndexExport.Url.Form
import IndexExport.Url.Reading
/-!
# Select queries

A select query asks one core of the index for documents: it has the address of the core's
select handler, the query text and a list of parameters. `Parameters.set` keeps the place
of a parameter that is there and adds a new one at the end, so each key stands once and
the order is that of first setting.

`SelectQuery.url` is the address of the request: the query text as `q` and then the
parameters, form encoded.
-/
set_option autoImplicit false

namespace IndexExport

inductive Core where
  | activity
  | transaction
  | budget
  deriving DecidableEq, Repr, Inhabited

def Core.name : Core → String
  | .activity => "activity"
  | .transaction => "transaction"
  | .budget => "budget"

abbrev Parameters := List (String × String)

def Parameters.set (key value : String) : Parameters → Parameters
  | [] => [(key, value)]
  | (k, v) :: rest => if k = key then (k, value) :: rest else (k, v) :: Parameters.set key value rest

def Parameters.remove (key : String) (parameters : Parameters) : Parameters :=
  parameters.filter fun p => p.1 ≠ key

def Parameters.get? (key : String) : Parameters → Option String
  | [] => none
  | (k, v) :: rest => if k = key then some v else Parameters.get? key rest

structure SelectQuery where
  base : Url
  query : String
  parameters : Parameters
  deriving DecidableEq, Repr, Inhabited

namespace SelectQuery

structure BadEndpoint where
  endpoint : String
  refusal : Url.Refusal
  deriving DecidableEq, Repr

def BadEndpoint.message (e : BadEndpoint) : String :=
  "Invalid endpoint URL '" ++ e.endpoint ++ "': " ++ e.refusal.message

def withoutEndSlashes (cs : List Char) : List Char :=
  (cs.reverse.dropWhile (· = '/')).reverse

def handlerText (endpoint : String) (core : Core) : String :=
  String.ofList (withoutEndSlashes endpoint.toList) ++ "/" ++ core.name ++ "/select"

def make (toAscii : Url.Host.ToAscii) (endpoint : String) (core : Core) (query : String) :
    Except BadEndpoint SelectQuery :=
  match Url.read toAscii (handlerText endpoint core) with
  | .ok base => .ok ⟨base, query, []⟩
  | .error refusal => .error ⟨endpoint, refusal⟩

def set (key value : String) (q : SelectQuery) : SelectQuery :=
  { q with parameters := q.parameters.set key value }

def remove (key : String) (q : SelectQuery) : SelectQuery :=
  { q with parameters := q.parameters.remove key }

def get? (key : String) (q : SelectQuery) : Option String :=
  q.parameters.get? key

def pairs (q : SelectQuery) : List Url.Form.Pair :=
  ("q", q.query) :: q.parameters

/-- The address of the request. A query that the endpoint has is kept in front. -/
def url (q : SelectQuery) : Url :=
  let added := Url.Form.encode q.pairs
  let query :=
    match q.base.query with
    | some (c :: cs) => (c :: cs) ++ '&' :: added
    | _ => added
  { q.base with query := some query }

end SelectQuery

end IndexExport
