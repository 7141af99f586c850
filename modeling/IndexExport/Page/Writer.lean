import IndexExport.Csv.Table
import IndexExport.Json.Mismatch
import IndexExport.Json.Reader
import IndexExport.Log.Notice
import IndexExport.Page.Occasion
import IndexExport.Page.Payload
/-!
# Writing pages

A writer turns the payload of a page into the content of one file. What can fail without
the file, fails before the file is opened. A file that is opened keeps nothing of what was
there: it gets the whole content, or where the medium breaks off what is left of it.

`Writer.content` says what a file is to hold, `Writer.write` puts it into a tree of files and
tells the log what was left out.
-/
set_option autoImplicit false

namespace IndexExport.Page

inductive Writer where
  | raw
  | xml
  | embeddedJson
  | csvTable
  deriving DecidableEq, Repr, Inhabited

def Writer.name : Writer → String
  | .raw => "raw"
  | .xml => "xml"
  | .embeddedJson => "embedded json"
  | .csvTable => "csv"

inductive Failure where
  | storage (path : String) (cause : Storage.Cause)
  | uneven (record : Csv.Uneven)
  | recordLost (cause : Storage.Cause)
  | valueLost (cause : Storage.Cause)
  | embedded (id : String) (fault : Json.Fault)
  | unsupported (writer payload : String)
  deriving Repr

def Failure.message : Failure → String
  | .storage path cause => "Failed to write " ++ path ++ ": " ++ cause.message
  | .uneven record => "CSV serialization error: " ++ record.message
  | .recordLost cause => "CSV serialization error: " ++ cause.message
  | .valueLost cause => "JSON serialization error: " ++ cause.message
  | .embedded id fault =>
    "Document " ++ id ++ " has an unparseable embedded JSON field: " ++ fault.message
  | .unsupported writer payload =>
    "The " ++ writer ++ " writer cannot write a " ++ payload ++ " payload"

def Failure.cause? : Failure → Option String
  | .storage _ cause => some cause.message
  | .uneven record => some record.message
  | .recordLost cause => some cause.message
  | .valueLost cause => some cause.message
  | .embedded _ fault => some fault.message
  | .unsupported .. => none

/-! ## XML -/

def xmlField : String := "iati_xml"

def xmlVersion : String := "2.03"

def xmlOf? (document : Json) : Option String :=
  match (document.get? xmlField).bind Json.asText? with
  | some s => if s = "" then none else some s
  | none => none

def shownId (document : Json) : String :=
  ((document.get? "id").getD .null).compact

def xmlText (moment : String) (documents : List Json) : String :=
  "<?xml version=\"1.0\" encoding=\"UTF-8\"?>\n<iati-activities version=\"" ++ xmlVersion ++
    "\" generated-datetime=\"" ++ moment ++ "\">\n" ++
    String.join ((documents.filterMap xmlOf?).map (· ++ "\n")) ++ "</iati-activities>\n"

def xmlNotices (documents : List Json) : List Log.Notice :=
  (documents.filter fun d => (xmlOf? d).isNone).map fun d => .documentSkipped (shownId d)

/-! ## Embedded JSON -/

def embeddedField : String := "iati_json"

def namedId (document : Json) : String :=
  ((document.get? "id").bind Json.asText?).getD "?"

/-- The embedded value of a document that has one; text is read as JSON. -/
def embedded? (document : Json) : Except Failure (Option Json) :=
  match document.get? embeddedField with
  | none | some .null => .ok none
  | some (.text s) =>
    match Json.read s with
    | some value => .ok (some value)
    | none => .error (.embedded (namedId document) .notJson)
  | some value => .ok (some value)

def embeddedValues : List Json → Except Failure (List Json)
  | [] => .ok []
  | document :: rest =>
    match embedded? document with
    | .error e => .error e
    | .ok value =>
      match embeddedValues rest with
      | .error e => .error e
      | .ok values => .ok (value.toList ++ values)

/-! ## Writers -/

/-- The content of a table; of documents without any fields, nothing. -/
def tableContent (documents : List Json) : Except Failure String :=
  if Csv.columns documents = [] then .ok ""
  else
    match Csv.pageText documents with
    | .ok cs => .ok (String.ofList cs)
    | .error e => .error (.uneven e)

def Writer.content (writer : Writer) (moment : String) : Payload → Except Failure String
  | .documents items =>
    match writer with
    | .raw => .ok (Json.list items).pretty
    | .xml => .ok (xmlText moment items)
    | .embeddedJson => (embeddedValues items).map fun values => (Json.list values).pretty
    | .csvTable => tableContent items
  | .tabular body =>
    match writer with
    | .csvTable => .ok body
    | _ => .error (.unsupported writer.name (Payload.tabular body).kindName)

def Writer.noticesBefore (writer : Writer) (path : String) : Payload → List Log.Notice
  | .documents items =>
    if writer = .csvTable ∧ Csv.columns items = [] then [.noFields path] else []
  | .tabular _ => []

/-- What the log is told while the file is written, up to a stage. -/
def Writer.noticesWithin (writer : Writer) (stage : Stage) : Payload → List Log.Notice
  | .documents items =>
    if writer = .xml then
      match stage with
      | .documents count => xmlNotices (items.take count)
      | .closing => xmlNotices items
    else []
  | .tabular _ => []

/-- What a writer says of a medium that breaks off. Values and records are handed on by writers
of their own, which have their own words for it; closing the file is the page writer's. -/
def Writer.brokenOff (writer : Writer) (path : String) (payload : Payload) (cause : Storage.Cause) :
    Stage → Failure
  | .closing => .storage path cause
  | .documents _ =>
    match writer, payload with
    | .raw, _ | .embeddedJson, _ => .valueLost cause
    | .csvTable, .documents items =>
      if Csv.columns items = [] then .storage path cause else .recordLost cause
    | _, _ => .storage path cause

structure Attempt where
  result : Except Failure Unit
  files : Storage.Tree
  notices : List Log.Notice
  deriving Repr

def Writer.write (writer : Writer) (occasion : Occasion) (payload : Payload) (path : String)
    (tree : Storage.Tree) : Attempt :=
  match writer.content occasion.moment payload with
  | .error e => ⟨.error e, tree, []⟩
  | .ok content =>
    let told := writer.noticesBefore path payload
    match occasion.medium.opens tree path with
    | .error cause => ⟨.error (.storage path cause), tree, told⟩
    | .ok place =>
      match occasion.medium with
      | .breaksOff stage cause left =>
        ⟨.error (writer.brokenOff path payload cause stage), tree.put place (.file left),
          told ++ writer.noticesWithin stage payload⟩
      | _ =>
        ⟨.ok (), tree.put place (.file (.text content)),
          told ++ writer.noticesWithin .closing payload⟩

end IndexExport.Page
