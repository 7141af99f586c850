import IndexExport.Json.Record
/-!
# Select responses

The index answers with the documents of a page, how many match in all, and the cursor of
the next page. Every part may be missing. `Response.read` goes over the text once;
documents that are not given as a list count as none.
-/
set_option autoImplicit false

namespace IndexExport.Select

structure ResultSet where
  count : Option Nat
  documents : Option Json
  deriving Repr, Inhabited, BEq

structure Response where
  results : Option ResultSet
  cursor : Option String
  deriving Repr, Inhabited, BEq

namespace Response

/-- Two brackets stand around the documents. -/
def documentRoom : Nat := Json.deepest - 2

def resultSetRecord : Json.Record Nat Json where
  shape := .resultSet
  firstName := "numFound"
  readFirst := Json.readCount
  secondName := "docs"
  readSecond := Json.readAny documentRoom

def readResultSet : Json.Reading ResultSet := fun lexemes =>
  (resultSetRecord.read lexemes).map fun ((count, documents), rest) => (⟨count, documents⟩, rest)

def responseRecord : Json.Record ResultSet String where
  shape := .response
  firstName := "response"
  readFirst := readResultSet
  secondName := "nextCursorMark"
  readSecond := Json.readText

def read (body : String) : Except Json.Fault Response :=
  match responseRecord.read (Json.scan body.toList) with
  | .error trouble => .error (trouble.fault body.toList)
  | .ok ((results, cursor), []) => .ok ⟨results, cursor⟩
  | .ok _ => .error .notJson

def documents (r : Response) : List Json :=
  match r.results.bind ResultSet.documents with
  | some (.list items) => items
  | _ => []

def count? (r : Response) : Option Nat :=
  r.results.bind ResultSet.count

def cursor? (r : Response) : Option String :=
  r.cursor

end Response

end IndexExport.Select
