import IndexExport.Calendar.Date
/-!
# Moments and spans of time

A moment is given in milliseconds since the first of January 1970 and written in universal
time to the millisecond. A span is written in seconds with one place after the point.
-/
set_option autoImplicit false

namespace IndexExport.Calendar

def dayLength : Nat := 86400000

def timeText (milliseconds : Nat) : List Char :=
  Text.padded 2 (milliseconds / 3600000) ++ ':' :: Text.padded 2 (milliseconds / 60000 % 60) ++
    ':' :: Text.padded 2 (milliseconds / 1000 % 60) ++ '.' :: Text.padded 3 (milliseconds % 1000)

/-- A moment; empty if the calendar does not reach so far. -/
def momentText (milliseconds : Nat) : String :=
  match Date.ofDayNumber? (milliseconds / dayLength : Nat) with
  | some date =>
    String.ofList (date.render ++ 'T' :: timeText (milliseconds % dayLength) ++ ['Z'])
  | none => ""

/-- A span in seconds, to the nearest tenth. -/
def spanText (milliseconds : Nat) : String :=
  let tenths := (milliseconds + 50) / 100
  String.ofList (Text.decimal (tenths / 10) ++ '.' :: Text.decimal (tenths % 10))

end IndexExport.Calendar
