import IndexExport.Page.Writer
import IndexExport.Select.Query
/-!
# Formats of an export

A `Descriptor` says how the pages of a format are asked for and written. The formats of
whole documents are walked with the cursor that comes with each page; the table formats
are counted first and take the cursor from a request of its own.

Only activities carry their XML and JSON, so only they can be exported in these formats.
-/
set_option autoImplicit false

namespace IndexExport.Export

inductive Format where
  | solr
  | xml
  | json
  | csv
  | flatCsv
  deriving DecidableEq, Repr, Inhabited

def Format.name : Format → String
  | .solr => "solr"
  | .xml => "xml"
  | .json => "json"
  | .csv => "csv"
  | .flatCsv => "flat-csv"

/-- Whether the data of a page come as documents or as a table. -/
inductive PayloadKind where
  | documents
  | tabular
  deriving DecidableEq, Repr, Inhabited

structure Descriptor where
  paginates : Bool
  fieldList : Option String
  responseWriter : Option String
  payload : PayloadKind
  writer : Page.Writer
  extension : String
  deriving DecidableEq, Repr, Inhabited

def Format.descriptor : Format → Descriptor
  | .solr => ⟨true, none, none, .documents, .raw, "json"⟩
  | .xml => ⟨true, some Page.xmlField, none, .documents, .xml, "xml"⟩
  | .json => ⟨true, some Page.embeddedField, none, .documents, .embeddedJson, "json"⟩
  | .csv => ⟨false, none, some "csv", .tabular, .csvTable, "csv"⟩
  | .flatCsv => ⟨false, none, some "json", .documents, .csvTable, "csv"⟩

def formatsOf : Core → List Format
  | .activity => [.solr, .xml, .json, .csv, .flatCsv]
  | .transaction | .budget => [.solr, .csv, .flatCsv]

end IndexExport.Export
