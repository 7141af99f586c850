import IndexExport.Export.Walk
import IndexExport.Filter.Document
import IndexExport.Settings.Headers
/-!
# A whole run

A run checks its settings, forms the query from the filters, makes the directory for the
pages, and only then asks the index for anything. The first failure ends it. `Ended` keeps
what happened up to then, whether it ended well or not.
-/
set_option autoImplicit false

namespace IndexExport.Session

def matchAll : String := "*:*"

def loadFilters (files : Storage.Tree) (path : String) : Except Filter.Failure (List Filter) :=
  match files.readText path with
  | .error cause => .error (.unreadable path cause)
  | .ok text =>
    match Filter.readAll text with
    | .error fault => .error (.unparsed path fault)
    | .ok filters => .ok filters

def orMatchAll (query : String) : String :=
  if Text.allBlank query then matchAll else query

def compileQuery (settings : Settings) (files : Storage.Tree) :
    Log.Told (Except Filter.Failure String) :=
  match settings.filtersFile with
  | none => (.ok matchAll, [])
  | some path =>
    match loadFilters files path with
    | .error e => (.error e, [])
    | .ok filters =>
      let (query, notices) := Filter.compileTold settings.filterMode filters
      (query.map orMatchAll, .filtersLoaded filters.length path :: notices)

inductive Failure where
  | settings (fault : Settings.Fault)
  | filters (failure : Filter.Failure)
  | directory (path : String) (cause : Storage.Cause)
  | endpoint (bad : SelectQuery.BadEndpoint)
  | headers (fault : Settings.HeaderFault)
  | walk (failure : Export.Failure)
  deriving Repr

def Failure.words : Failure → List String
  | .settings fault => [fault.message]
  | .filters e => e.message :: e.cause?.toList
  | .directory path cause => ["Failed to create output directory " ++ path, cause.message]
  | .endpoint bad => [bad.message, bad.refusal.message]
  | .headers fault => ["Failed to initialize HTTP client", fault.message, fault.cause]
  | .walk e => e.message :: e.causes

def Failure.message (e : Failure) : String :=
  String.intercalate ": " e.words

/-- How a run came out; one that was cut short has no result. -/
inductive Result where
  | exported (report : Export.Report)
  | failed (failure : Failure)
  | cutShort
  deriving Repr

structure Ended where
  result : Result
  files : Storage.Tree
  sent : List Export.Request
  notices : List Log.Notice
  deriving Repr

def Ended.ofOutcome (notices : List Log.Notice) (outcome : Export.Job.Outcome) : Ended where
  result :=
    match outcome with
    | .finished p => .exported p.report
    | .failed e _ => .failed (.walk e)
    | .unfinished .. => .cutShort
  files := outcome.progress.files
  sent := outcome.progress.sent
  notices := notices ++ outcome.notices

def Ended.early (failure : Failure) (files : Storage.Tree) (notices : List Log.Notice) : Ended :=
  ⟨.failed failure, files, [], notices⟩

def exportingNotice (settings : Settings) : Log.Notice :=
  .exporting settings.core.name settings.format.name settings.outputDirectory

/-- What a run finds around it: how domains are put into ASCII, who answers requests, and what the
writing of a page meets after so many requests. -/
structure Surroundings where
  toAscii : Url.Host.ToAscii
  fetch : Export.Fetcher
  occasion : Nat → Page.Occasion

/-- The run once the directory is there. -/
def runInto (settings : Settings) (around : Surroundings) (fuel : Nat) (query : String)
    (files : Storage.Tree) (notices : List Log.Notice) : Ended :=
  match SelectQuery.make around.toAscii settings.endpoint settings.core query with
  | .error bad => .early (.endpoint bad) files notices
  | .ok select =>
    match settings.checkHeaders with
    | .error fault => .early (.headers fault) files notices
    | .ok () =>
      .ofOutcome (notices ++ [exportingNotice settings])
        ((settings.job around.occasion).run around.fetch fuel select files)

def run (settings : Settings) (around : Surroundings) (fuel : Nat) (files : Storage.Tree) :
    Ended :=
  match settings.validate with
  | .error fault => .early (.settings fault) files []
  | .ok () =>
    match compileQuery settings files with
    | (.error e, notices) => .early (.filters e) files notices
    | (.ok query, notices) =>
      let told := notices ++ [.query query]
      match files.makeDirectories settings.outputDirectory with
      | (more, .error cause) =>
        .early (.directory settings.outputDirectory cause) more told
      | (more, .ok ()) => runInto settings around fuel query more told

end IndexExport.Session
