import IndexExport.Text.Digits
import IndexExport.Text.Split
/-!
# Records of a table

A record is written as its fields with commas between them and a line feed at the end. A
field that holds a comma, a quote or a line end is put between quotes, with its quotes
doubled. A record that would leave an empty line, which readers pass over, is written as
an empty field between quotes.

All records of a table have as many fields as the first one.
-/
set_option autoImplicit false

namespace IndexExport.Csv

abbrev Record := List String

def needsQuotes (c : Char) : Bool :=
  c = ',' || c = '"' || c = '\n' || c = '\r'

def doubled (c : Char) : List Char :=
  if c = '"' then ['"', '"'] else [c]

def fieldText (field : String) : List Char :=
  if field.toList.any needsQuotes then '"' :: field.toList.flatMap doubled ++ ['"']
  else field.toList

def fieldsText (record : Record) : List Char :=
  Text.joinWith [','] (record.map fieldText)

def recordText (record : Record) : List Char :=
  (if fieldsText record = [] then ['"', '"'] else fieldsText record) ++ ['\n']

/-- A record whose number of fields is not that of the records before it. -/
structure Uneven where
  fields : Nat
  before : Nat
  deriving DecidableEq, Repr

def Uneven.message (e : Uneven) : String :=
  "CSV error: found record with " ++ toString e.fields ++
    " fields, but the previous record has " ++ toString e.before ++ " fields"

def firstUneven (width : Nat) : List Record → Option Uneven
  | [] => none
  | record :: rest =>
    if record.length = width then firstUneven width rest else some ⟨record.length, width⟩

def recordsText (records : List Record) : List Char :=
  records.flatMap recordText

/-- A table: a record of column names and rows of as many fields. -/
def tableText (columns : Record) (rows : List Record) : Except Uneven (List Char) :=
  match firstUneven columns.length rows with
  | some e => .error e
  | none => .ok (recordsText (columns :: rows))

end IndexExport.Csv
