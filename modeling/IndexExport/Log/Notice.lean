/-!
# What the log tells

A `Notice` is one thing that happened, with what belongs to it. `level` says how
important it is, `source` which part of the program tells it, and `message` puts it into
words. How long a run took is known to the clock alone and handed in.
-/
set_option autoImplicit false

namespace IndexExport.Log

inductive Level where
  | error
  | warn
  | info
  | debug
  | trace
  deriving DecidableEq, Repr, Inhabited

def Level.name : Level → String
  | .error => "ERROR"
  | .warn => "WARN"
  | .info => "INFO"
  | .debug => "DEBUG"
  | .trace => "TRACE"

/-- Greater for what matters less. -/
def Level.rank : Level → Nat
  | .error => 1
  | .warn => 2
  | .info => 3
  | .debug => 4
  | .trace => 5

inductive Source where
  | session
  | compilation
  | walk
  | exchange
  | xmlWriter
  | csvWriter
  deriving DecidableEq, Repr

def Source.name : Source → String
  | .session => "datastore_export::run"
  | .compilation => "datastore_export::filter::compile"
  | .walk => "datastore_export::export::pipeline"
  | .exchange => "datastore_export::fetch"
  | .xmlWriter => "datastore_export::export::writers::xml"
  | .csvWriter => "datastore_export::export::writers::csv"

inductive Notice where
  | filtersLoaded (count : Nat) (path : String)
  | query (text : String)
  | exporting (core format directory : String)
  | joinUnrecognized (id : String)
  | filterDropped (id field : String)
  | counting
  | counted (documents : Nat)
  | fetchingAll
  | fetchingPage (page : Nat)
  | requesting (url : String)
  | sent (url : String)
  | received (url : String) (status bytes : Nat)
  | pageEmpty (page : Nat)
  | nothingWritten (page : Nat)
  | documentSkipped (id : String)
  | noFields (path : String)
  | pageWritten (path writer : String)
  | finished (pages requests : Nat)
  deriving DecidableEq, Repr

/-- A result and what the log was told on the way to it. -/
abbrev Told (α : Type) := α × List Notice

def Notice.level : Notice → Level
  | .filtersLoaded .. | .query _ | .exporting .. | .counting | .counted _ | .fetchingAll
  | .fetchingPage _ | .pageWritten .. | .finished .. => .info
  | .joinUnrecognized _ | .filterDropped .. | .requesting _ | .sent _ | .received ..
  | .pageEmpty _ | .nothingWritten _ | .documentSkipped _ | .noFields _ => .debug

def Notice.source : Notice → Source
  | .filtersLoaded .. | .query _ | .exporting .. => .session
  | .joinUnrecognized _ | .filterDropped .. => .compilation
  | .counting | .counted _ | .fetchingAll | .fetchingPage _ | .requesting _ | .pageEmpty _
  | .nothingWritten _ | .pageWritten .. | .finished .. => .walk
  | .sent _ | .received .. => .exchange
  | .documentSkipped _ => .xmlWriter
  | .noFields _ => .csvWriter

def Notice.message (elapsed : String) : Notice → String
  | .filtersLoaded count path => "Loaded " ++ toString count ++ " filter(s) from " ++ path
  | .query text => "Query: " ++ text
  | .exporting core format directory =>
    "Exporting " ++ core ++ " core as " ++ format ++ " into " ++ directory
  | .joinUnrecognized id => "Filter '" ++ id ++ "' has an unrecognized join operator, using AND"
  | .filterDropped id field =>
    "Dropping filter '" ++ id ++ "' on '" ++ field ++ "': operator not supported for its type"
  | .counting => "Getting meta data"
  | .counted documents => "Docs found: " ++ toString documents
  | .fetchingAll => "Getting data"
  | .fetchingPage page => "Getting page " ++ toString page
  | .requesting url => "Requesting " ++ url
  | .sent url => "GET " ++ url
  | .received url status bytes =>
    url ++ " -> " ++ toString status ++ " (" ++ toString bytes ++ " bytes)"
  | .pageEmpty page => "Page " ++ toString page ++ " is empty, skipping data request"
  | .nothingWritten page => "Page " ++ toString page ++ " has no documents, nothing written"
  | .documentSkipped id => "Skipping document " ++ id ++ " without iati_xml"
  | .noFields path => "No document has fields, writing empty " ++ path
  | .pageWritten path writer => "Wrote " ++ path ++ " (" ++ writer ++ " writer)"
  | .finished pages requests =>
    "Finished: " ++ toString pages ++ " page file(s), " ++ toString requests ++
      " request(s) in " ++ elapsed ++ "s"

end IndexExport.Log
