import IndexExport.Log.Line
/-!
# The logger of the program

The program has one logger. Once it is installed it stays, and another one is refused.
-/
set_option autoImplicit false

namespace IndexExport.Log

structure Logger where
  format : Format
  level : Level
  deriving DecidableEq, Repr, Inhabited

namespace Logger

structure AlreadyInstalled where
  installed : Logger
  deriving DecidableEq, Repr

def AlreadyInstalled.message (_ : AlreadyInstalled) : String :=
  "Logger initialization error: attempted to set a logger after the logging system was already initialized"

def install (current : Option Logger) (wanted : Logger) : Except AlreadyInstalled Logger :=
  match current with
  | none => .ok wanted
  | some logger => .error ⟨logger⟩

def written (logger : Logger) (clock : Clock) (notices : List Notice) : String :=
  Log.written logger.format logger.level clock notices

end Logger

end IndexExport.Log
