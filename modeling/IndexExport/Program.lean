import IndexExport.Export.Conversation
import IndexExport.Session
import IndexExport.Settings.Arguments
import IndexExport.Settings.Environment
/-!
# The program

The program takes its settings from the arguments, and the key, where no argument gives
it, from the environment or from the variables file. It writes the log and a last word on
failure to the standard error, and a summary on success to the standard output.
-/
set_option autoImplicit false

namespace IndexExport.Program

def keyVariable : String := "DATASTORE_API_KEY"

def variablesFile : String := ".env"

/-- The environment with the variables of the file, where there is one. The file is read
line by line: a line that is no text ends it as one that is at fault does. -/
def fullEnvironment (environment : Settings.Environment) (files : Storage.Tree) :
    Settings.Environment :=
  match files.read variablesFile with
  | .ok content => environment.readFile content.readable
  | .error _ => environment

/-- What a call of the program leaves behind. The log is missing where the arguments are at
fault. -/
structure Done where
  exitCode : Nat
  standardOutput : String
  standardError : String
  files : Storage.Tree
  sent : List Export.Request
  settings : Option Settings
  deriving Repr

def plural (count : Nat) : String :=
  if count = 1 then "" else "s"

def summary (elapsed : String) (report : Export.Report) : String :=
  let pages := report.pagesWritten
  "Exported " ++ toString pages ++ " page file" ++ plural pages ++ " (" ++
    (match report.documentsFound with
     | some found => toString found ++ " matching document" ++ plural found
     | none =>
       toString report.documentsWritten ++ " document" ++ plural report.documentsWritten) ++
    ") in " ++ elapsed ++ "s\n"

def whereabouts (report : Export.Report) : String :=
  match report.files.head?.bind Storage.parent? with
  | some directory => "Results saved in " ++ directory ++ "\n"
  | none => ""

def outputOf (elapsed : String) : Session.Result → String
  | .exported report => summary elapsed report ++ whereabouts report
  | _ => ""

def complaintOf : Session.Result → String
  | .failed e => "datastore_export error: " ++ e.message ++ "\n"
  | _ => ""

def exitCodeOf : Session.Result → Nat
  | .exported _ => 0
  | _ => 1

def usageCode : Nat := 2

def helpCode : Nat := 0

def stopped (fault : Settings.ArgumentFault) (files : Storage.Tree) : Done :=
  ⟨if fault = .helpWanted then helpCode else usageCode, "", "", files, [], none⟩

def runWith (settings : Settings) (around : Session.Surroundings) (fuel : Nat) (clock : Log.Clock)
    (files : Storage.Tree) : Done :=
  let ended := Session.run settings around fuel files
  { exitCode := exitCodeOf ended.result
    standardOutput := outputOf clock.elapsed ended.result
    standardError :=
      Log.written settings.logFormat settings.logLevel clock ended.notices ++
        complaintOf ended.result
    files := ended.files
    sent := ended.sent
    settings := some settings }

def call (arguments : List String) (environment : Settings.Environment)
    (around : Session.Surroundings) (fuel : Nat) (clock : Log.Clock) (files : Storage.Tree) :
    Done :=
  match Settings.Given.read arguments ((fullEnvironment environment files).get? keyVariable) with
  | .error fault => stopped fault files
  | .ok given => runWith given.settings around fuel clock files

end IndexExport.Program
