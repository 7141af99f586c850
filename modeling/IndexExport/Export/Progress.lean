import IndexExport.Export.Cursor
import IndexExport.Export.Failure
import IndexExport.Export.Format
import IndexExport.Select.Response
import IndexExport.Text.Cleaning
/-!
# How far an export has come

A `Job` says what is to be exported and where to, a `Report` what came of it. `Progress`
is all that a step of an export changes: the query with its parameters, the report, the
files, the requests sent so far, and what the log was told.

Whoever answers the requests is a `Fetcher`: it knows how many requests came before and
the address of this one.
-/
set_option autoImplicit false

namespace IndexExport.Export

/-- What is to be exported: documents per page, the directory for the pages, and what the writing
of a page meets after so many requests. -/
structure Job where
  descriptor : Descriptor
  rowsPerPage : Nat
  directory : String
  occasion : Nat → Page.Occasion
  deriving Inhabited

structure Report where
  files : List String
  documentsFound : Option Nat
  documentsWritten : Nat
  requests : Nat
  deriving DecidableEq, Repr, Inhabited

def Report.empty : Report := ⟨[], none, 0, 0⟩

def Report.pagesWritten (report : Report) : Nat := report.files.length

structure Answer where
  status : Nat
  body : String
  deriving DecidableEq, Repr, Inhabited

def Answer.isSuccess (answer : Answer) : Bool :=
  200 ≤ answer.status && answer.status < 300

/-- Whoever answers: given the number of requests before and the address, an answer or
why there is none, and what the log is told of the exchange. -/
abbrev Fetcher := Nat → Url → Log.Told (Except Select.NoAnswer Answer)

/-- A request that was sent: what was asked, and the files at that time. -/
structure Request where
  query : SelectQuery
  files : Storage.Tree
  deriving Repr, Inhabited

structure Progress where
  query : SelectQuery
  report : Report
  files : Storage.Tree
  sent : List Request
  notices : List Log.Notice
  deriving Repr, Inhabited

/-- The result of a step, and how far the export has come then. -/
abbrev Reached (α : Type) := Except Failure α × Progress

namespace Progress

def start (query : SelectQuery) (files : Storage.Tree) : Progress :=
  ⟨query, .empty, files, [], []⟩

def tell (p : Progress) (notice : Log.Notice) : Progress :=
  { p with notices := p.notices ++ [notice] }

def tellAll (p : Progress) (notices : List Log.Notice) : Progress :=
  { p with notices := p.notices ++ notices }

def set (p : Progress) (key value : String) : Progress :=
  { p with query := p.query.set key value }

def setOrRemove (p : Progress) (key : String) : Option String → Progress
  | some value => p.set key value
  | none => { p with query := p.query.remove key }

def send (p : Progress) : Progress :=
  { p with
    report := { p.report with requests := p.report.requests + 1 }
    sent := p.sent ++ [⟨p.query, p.files⟩] }

def count (p : Progress) (total : Nat) : Progress :=
  { p with report := { p.report with documentsFound := some total } }

def addFile (p : Progress) (path : String) : Progress :=
  { p with report := { p.report with files := p.report.files ++ [path] } }

def addDocuments (p : Progress) (count : Nat) : Progress :=
  { p with
    report := { p.report with documentsWritten := p.report.documentsWritten + count } }

end Progress

end IndexExport.Export
