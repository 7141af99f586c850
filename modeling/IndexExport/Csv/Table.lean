import IndexExport.Csv.Record
import IndexExport.Json.Printer
/-!
# Documents as a table

The columns are the keys of the first document that has any. Each document is a row: the
value of each column in one cell. The items of a list are joined in the cell, a text
stands as it is, and other values in their JSON form; what is missing or `null` leaves the
cell empty.
-/
set_option autoImplicit false

namespace IndexExport.Csv

def keys : Json → List String
  | .object members => members.map Prod.fst
  | _ => []

def columns (documents : List Json) : Record :=
  match documents.find? fun d => keys d ≠ [] with
  | some d => keys d
  | none => []

mutual

def valueCell : Json → String
  | .null => ""
  | .text s => s
  | .list items => itemsCell items
  | .boolean b => (Json.boolean b).compact
  | .number n => (Json.number n).compact
  | .object members => (Json.object members).compact

def itemsCell : List Json → String
  | [] => ""
  | [item] => valueCell item
  | item :: next :: rest => valueCell item ++ "," ++ itemsCell (next :: rest)

end

def cell : Option Json → String
  | none => ""
  | some value => valueCell value

def row (columns : Record) (document : Json) : Record :=
  columns.map fun column => cell (document.get? column)

def pageText (documents : List Json) : Except Uneven (List Char) :=
  tableText (columns documents) (documents.map (row (columns documents)))

end IndexExport.Csv
