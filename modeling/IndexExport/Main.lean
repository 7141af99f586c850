import IndexExport.Calendar.Moment
import IndexExport.Program
import Std.Time.DateTime.Timestamp
/-!
# The outer layer of the program

It gathers what a run may look at, calls the program, and puts what the run leaves behind
where it belongs. Requests are not sent from here: the replies are read from the standard
input, one JSON object with `status` and `body` a line in the order of the requests, and
`null` for a request that got none.
-/
set_option autoImplicit false

namespace IndexExport.Main

def reply? (line : String) : Option Export.Answer :=
  match Json.read line with
  | some value =>
    match value.get? "status", value.get? "body" with
    | some (.number (.whole status)), some (.text body) => some ⟨status.toNat, body⟩
    | none, some (.text body) => some ⟨200, body⟩
    | _, _ => none
  | none => none

def now : IO Nat := do
  return (← Std.Time.Timestamp.now).toMillisecondsSinceUnixEpoch.val.toNat

partial def readReplies (input : IO.FS.Stream) (before : List (Option Export.Answer × Nat)) :
    IO (List (Option Export.Answer × Nat)) := do
  let line ← input.getLine
  if line.isEmpty then return before.reverse
  readReplies input ((reply? line, ← now) :: before)

/-- A page is written when the reply with it has come, to a medium that takes everything. -/
def occasion (came : List Nat) (sent : Nat) : Page.Occasion :=
  ⟨Calendar.momentText ((came[sent - 1]?).getD 0), .takes⟩

def found? (path : String) : IO (Option Storage.Entry) := do
  try
    return some (.file (.ofBytes (← IO.FS.readBinFile path).toList))
  catch
    | .inappropriateType .. => return some .directory
    | _ => return none

def withEntry (tree : Storage.Tree) (path : String) : Storage.Entry → Storage.Tree
  | .directory => (tree.makeDirectories path).1
  | .file content =>
    let above := (tree.makeDirectories ((Storage.parent? path).getD "")).1
    match above.openForWriting path with
    | .ok place => above.put place (.file content)
    | .error _ => above

def look (tree : Storage.Tree) (path : String) : IO Storage.Tree := do
  return ((← found? path).map (withEntry tree path)).getD tree

/-- The paths that a run may look at: the variables, the filters, and the directory for the
pages with those above it. -/
def paths (settings : Settings) : List String :=
  Program.variablesFile :: settings.filtersFile.toList ++
    (Storage.lineage settings.outputDirectory).reverse

def gather (settings : Settings) : IO Storage.Tree :=
  (paths settings).foldlM look .empty

def store (settings : Settings) (files : Storage.Tree) : IO Unit := do
  let directory := settings.outputDirectory
  if files.isDirectory directory then
    IO.FS.createDirAll directory
    for (name, entry) in files.list directory do
      match entry with
      | .file (.text text) => IO.FS.writeFile (Storage.join directory name) text
      | _ => pure ()

def asked (arguments : List String) : Settings :=
  match Settings.Given.read arguments none with
  | .ok given => given.settings
  | .error _ => .default

end IndexExport.Main

open IndexExport in
def main (arguments : List String) : IO UInt32 := do
  let started ← IO.monoMsNow
  let environment := (← IO.getEnv Program.keyVariable).toList.map fun key =>
    (Program.keyVariable, key)
  let files ← Main.gather (Main.asked arguments)
  let (replies, came) := (← Main.readReplies (← IO.getStdin) []).unzip
  let around : Session.Surroundings :=
    ⟨Url.Host.asciiOnly, Export.answering replies, Main.occasion came⟩
  let clock : Log.Clock := ⟨← Main.now, Calendar.spanText ((← IO.monoMsNow) - started)⟩
  let done := Program.call arguments environment around (Export.enoughSteps replies) clock files
  IO.print done.standardOutput
  IO.eprint done.standardError
  if let some settings := done.settings then Main.store settings done.files
  return done.exitCode.toUInt32
