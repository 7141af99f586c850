import IndexExport.Export.Progress
import IndexExport.Filter.Compile
import IndexExport.Log.Line
/-!
# Settings of a run

`Settings.validate` finds the first setting that would make a run useless, before anything
is read or sent.
-/
set_option autoImplicit false

namespace IndexExport

/-- The settings of a run. Delays are in milliseconds. -/
structure Settings where
  apiKey : String
  filtersFile : Option String
  core : Core
  format : Export.Format
  outputDirectory : String
  rowsPerPage : Nat
  endpoint : String
  filterMode : Filter.Mode
  timeoutSeconds : Nat
  userAgent : String
  pageDelay : Nat
  bulkPageDelay : Nat
  logLevel : Log.Level
  logFormat : Log.Format
  deriving Repr, Inhabited

namespace Settings

def default : Settings where
  apiKey := ""
  filtersFile := none
  core := .activity
  format := .solr
  outputDirectory := ""
  rowsPerPage := 100
  endpoint := "https://api.iatistandard.org/datastore"
  filterMode := .structured
  timeoutSeconds := 30
  userAgent := "datastore_export/0.1.0"
  pageDelay := 1000
  bulkPageDelay := 2000
  logLevel := .info
  logFormat := .plain

inductive Fault where
  | noKey
  | formatNotAllowed (format : Export.Format) (core : Core)
  | noDirectory
  | noRows
  deriving DecidableEq, Repr

def Fault.message : Fault → String
  | .noKey => "Invalid API key. It must be a non-empty string"
  | .formatNotAllowed format core =>
    "Invalid format '" ++ format.name ++ "' for core '" ++ core.name ++
      "'. Valid formats are: " ++
      String.intercalate ", " ((Export.formatsOf core).map Export.Format.name)
  | .noDirectory => "Invalid output directory. It must be a non-empty path"
  | .noRows => "Rows per page must be at least 1"

def validate (s : Settings) : Except Fault Unit :=
  if Text.allBlank s.apiKey then .error .noKey
  else if s.format ∉ Export.formatsOf s.core then .error (.formatNotAllowed s.format s.core)
  else if s.outputDirectory = "" then .error .noDirectory
  else if s.rowsPerPage = 0 then .error .noRows
  else .ok ()

def sentKey (s : Settings) : String :=
  Text.trimmed s.apiKey

def job (s : Settings) (occasion : Nat → Page.Occasion) : Export.Job :=
  ⟨s.format.descriptor, s.rowsPerPage, s.outputDirectory, occasion⟩

end Settings

end IndexExport
