import IndexExport.Json.Printer
import IndexExport.Log.Notice
import IndexExport.Text.Terminal
/-!
# Lines of the log

A notice is written as one line: plain, or as a JSON object with the time, the level, the
source and the message. In a plain line the message stands as it is and may itself hold
line feeds; in a JSON line it is quoted and cannot. Of either line the log holds what a
terminal shows.
-/
set_option autoImplicit false

namespace IndexExport.Log

inductive Format where
  | plain
  | json
  deriving DecidableEq, Repr, Inhabited

/-- What the clock says: milliseconds since the first of January 1970, and the seconds that a run
has taken, with one place after the point. -/
structure Clock where
  milliseconds : Nat
  elapsed : String
  deriving Repr, Inhabited

def line (format : Format) (milliseconds : Nat) (level : Level) (source : Source)
    (message : String) : String :=
  match format with
  | .plain => source.name ++ " [" ++ level.name ++ "] " ++ message ++ "\n"
  | .json =>
    "\x7b\"ts\":" ++ toString milliseconds ++ ",\"level\":\"" ++ level.name ++
      "\",\"target\":\"" ++ source.name ++ "\",\"msg\":" ++
      String.ofList (Json.quoted message) ++ "\x7d\n"

def Notice.line (format : Format) (clock : Clock) (notice : Notice) : String :=
  Log.line format clock.milliseconds notice.level notice.source (notice.message clock.elapsed)

def Notice.shownLine (format : Format) (clock : Clock) (notice : Notice) : String :=
  String.ofList (Text.Terminal.shown (notice.line format clock).toList)

/-- The notices that matter at least as much as a level. -/
def upTo (level : Level) (notices : List Notice) : List Notice :=
  notices.filter fun n => n.level.rank ≤ level.rank

def written (format : Format) (level : Level) (clock : Clock) (notices : List Notice) : String :=
  String.join ((upTo level notices).map (Notice.shownLine format clock))

end IndexExport.Log
