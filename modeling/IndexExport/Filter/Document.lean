import IndexExport.Filter.Basic
import IndexExport.Json.Mismatch
import IndexExport.Json.Reader
/-!
# Filters documents

A filters document is a list of filters, or an object that holds such a list under the
key `data`. A filter is an object whose other keys do not count, or the list of its six
fields in order. Identifier, value and join may be any scalar and are taken as text.

Of several faults the first in the order of the text is reported, and missing fields only
when all fields present can be read.
-/
set_option autoImplicit false

namespace IndexExport.Filter

open Json (Mismatch Fault)

def scalarText : Json → Except Mismatch String
  | .text s => .ok s
  | .number n => .ok (String.ofList n.render)
  | .boolean b => .ok (if b then "true" else "false")
  | .null => .ok ""
  | other => .error (.notWritable other)

def plainText : Json → Except Mismatch String
  | .text s => .ok s
  | other => .error (.wrongKind other.found .text)

/-- A name: a text, or an object with the name as its only key and nothing under it. -/
def name : Json → Except Mismatch String
  | .text s => .ok s
  | .object [(key, .null)] => .ok key
  | .object [(_, value)] => .error (.wrongKind value.found .nothing)
  | .object _ => .error .notSingleKey
  | other => .error (.wrongKind other.found .textOrObject)

def Kind.named (s : String) : Kind :=
  if s = "text" then .text
  else if s = "combo" then .combo
  else if s = "date" then .date
  else if s = "number" then .number
  else if s = "integer" then .integer
  else if s = "grouping" then .grouping
  else .other

def Operator.named (s : String) : Operator :=
  if s = "equals" then .equals
  else if s = "notEquals" then .notEquals
  else if s = "lessThan" then .lessThan
  else if s = "greaterThan" then .greaterThan
  else .unsupported

def kindOf (value : Json) : Except Mismatch Kind :=
  (name value).map Kind.named

def operatorOf : Json → Except Mismatch (Option Operator)
  | .null => .ok none
  | value => (name value).map fun s => some (Operator.named s)

def joinOf (value : Json) : Except Mismatch (Option Join) :=
  (scalarText value).map Join.read?

/-! ## Filters as objects -/

structure Draft where
  id : Option String := none
  field : Option String := none
  kind : Option Kind := none
  operator : Option (Option Operator) := none
  value : Option String := none
  join : Option (Option Join) := none

/-- One more member; a key that is no field of a filter is passed over. -/
def Draft.add (draft : Draft) (key : String) (value : Json) : Except Mismatch Draft :=
  if key = "id" then (scalarText value).map fun x => { draft with id := some x }
  else if key = "field" then (plainText value).map fun x => { draft with field := some x }
  else if key = "type" then (kindOf value).map fun x => { draft with kind := some x }
  else if key = "operator" then (operatorOf value).map fun x => { draft with operator := some x }
  else if key = "value" then (scalarText value).map fun x => { draft with value := some x }
  else if key = "joinOperator" then (joinOf value).map fun x => { draft with join := some x }
  else .ok draft

def Draft.addAll (draft : Draft) : Json.Members → Except Mismatch Draft
  | [] => .ok draft
  | (key, value) :: rest =>
    match draft.add key value with
    | .error e => .error e
    | .ok next => next.addAll rest

def Draft.finish (draft : Draft) : Except Mismatch Filter :=
  match draft.id, draft.kind with
  | none, _ => .error (.missingField "id")
  | some _, none => .error (.missingField "type")
  | some id, some kind =>
    .ok {
      id := id
      field := draft.field.getD ""
      kind := kind
      operator := draft.operator.getD none
      value := draft.value.getD ""
      join := draft.join.getD none }

def ofMembers (members : Json.Members) : Except Mismatch Filter :=
  match Draft.addAll {} members with
  | .error e => .error e
  | .ok draft => draft.finish

/-! ## Filters as lists -/

def itemOr {α : Type} (items : List Json) (position : Nat) (read : Json → Except Mismatch α)
    (absent : Except Mismatch α) : Except Mismatch α :=
  match items[position]? with
  | some item => read item
  | none => absent

def ofItems (items : List Json) : Except Mismatch Filter := do
  let id ← itemOr items 0 scalarText (.error (.tooFewItems 0))
  let field ← itemOr items 1 plainText (.ok "")
  let kind ← itemOr items 2 kindOf (.error (.tooFewItems 2))
  let operator ← itemOr items 3 operatorOf (.ok none)
  let value ← itemOr items 4 scalarText (.ok "")
  let join ← itemOr items 5 joinOf (.ok none)
  if items.length > 6 then .error (.tooManyItems items.length)
  else .ok ⟨id, field, kind, operator, value, join⟩

/-! ## Documents -/

def ofJson : Json → Except Mismatch Filter
  | .object members => ofMembers members
  | .list items => ofItems items
  | other => .error (.wrongKind other.found .filter)

/-- Filters in order; the first fault wins. -/
def allOfJson : List Json → Except Mismatch (List Filter)
  | [] => .ok []
  | item :: rest =>
    match ofJson item with
    | .error e => .error e
    | .ok f => (allOfJson rest).map (f :: ·)

def listOf (document : Json) : Json :=
  (document.get? "data").getD document

def ofDocument (document : Json) : Except Mismatch (List Filter) :=
  match listOf document with
  | .list items => allOfJson items
  | other => .error (.wrongKind other.found .list)

def readAll (text : String) : Except Fault (List Filter) :=
  match Json.read text with
  | none => .error .notJson
  | some document =>
    match ofDocument document with
    | .error e => .error (.mismatch e none)
    | .ok filters => .ok filters

end IndexExport.Filter
