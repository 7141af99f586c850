import IndexExport.Calendar.Date
import IndexExport.Text.Blank
/-!
# Six ways to write a date

A date is read from a text in one of six forms: year, month and day; a timestamp with an
offset from universal time; three timestamps without an offset; and milliseconds since
the first of January 1970. A timestamp with an offset counts as its day in universal
time, one without as the day it names. `read?` takes the first form that fits.

The numbers of the loose forms have one or two digits, may have blanks before them, and
their year may have up to four digits or, after a sign, any number. The form with an
offset is strict about every digit.
-/
set_option autoImplicit false

namespace IndexExport.Calendar

/-! ## Pieces -/

def literal? (expected : Char) : List Char → Option (List Char)
  | [] => none
  | c :: rest => if c = expected then some rest else none

def digits? (width : Nat) (cs : List Char) : Option (Nat × List Char) :=
  let ds := (cs.take width).takeWhile Char.isDigit
  if ds = [] then none else some (Text.ofDigits ds, cs.drop ds.length)

def exactDigits? (width : Nat) (cs : List Char) : Option (Nat × List Char) :=
  let ds := (cs.take width).takeWhile Char.isDigit
  if ds.length = width then some (Text.ofDigits ds, cs.drop width) else none

def item? (cs : List Char) : Option (Nat × List Char) :=
  digits? 2 (Text.trimStart cs)

/-- A year after blanks: up to four digits, or a sign and any number of digits. -/
def year? (cs : List Char) : Option (Int × List Char) :=
  match Text.trimStart cs with
  | '-' :: rest => (digits? rest.length rest).map fun (n, after) => (-(n : Int), after)
  | '+' :: rest => (digits? rest.length rest).map fun (n, after) => ((n : Int), after)
  | rest => (digits? 4 rest).map fun (n, after) => ((n : Int), after)

def fraction? : List Char → Option (List Char)
  | '.' :: cs => if (cs.takeWhile Char.isDigit) = [] then none else some (cs.dropWhile Char.isDigit)
  | cs => some cs

structure Time where
  hour : Nat
  minute : Nat
  second : Nat
  deriving DecidableEq, Repr

/-- The time of day is on the clock; the second sixty is a leap second. -/
def Time.Valid (t : Time) : Prop :=
  t.hour ≤ 23 ∧ t.minute ≤ 59 ∧ t.second ≤ 60

instance (t : Time) : Decidable t.Valid :=
  inferInstanceAs (Decidable (_ ∧ _))

def Time.secondOfDay (t : Time) : Nat :=
  3600 * t.hour + 60 * t.minute + min t.second 59

/-! ## Loose forms -/

def looseDate? (cs : List Char) : Option (Date × List Char) := do
  let (year, cs) ← year? cs
  let cs ← literal? '-' cs
  let (month, cs) ← item? cs
  let cs ← literal? '-' cs
  let (day, cs) ← item? cs
  let date ← Date.of? year month day
  return (date, cs)

def looseMinutes? (cs : List Char) : Option (Time × List Char) := do
  let (hour, cs) ← item? cs
  let cs ← literal? ':' cs
  let (minute, cs) ← item? cs
  return (⟨hour, minute, 0⟩, cs)

def looseTime? (cs : List Char) : Option (Time × List Char) := do
  let (time, cs) ← looseMinutes? cs
  let cs ← literal? ':' cs
  let (second, cs) ← item? cs
  let cs ← fraction? cs
  return (⟨time.hour, time.minute, second⟩, cs)

def finish? (date : Date) : Time × List Char → Option Date
  | (time, []) => if time.Valid then some date else none
  | _ => none

def readDay? (cs : List Char) : Option Date :=
  match looseDate? cs with
  | some (date, []) => some date
  | _ => none

def readSeconds? (cs : List Char) : Option Date := do
  let (date, cs) ← looseDate? cs
  let cs ← literal? 'T' cs
  finish? date (← looseTime? cs)

def readMinutes? (cs : List Char) : Option Date := do
  let (date, cs) ← looseDate? cs
  let cs ← literal? 'T' cs
  finish? date (← looseMinutes? cs)

/-- `2020-01-31 12:30:15.5`, with any number of blanks between day and time. -/
def readSpaced? (cs : List Char) : Option Date := do
  let (date, cs) ← looseDate? cs
  finish? date (← looseTime? (Text.trimStart cs))

/-! ## The form with an offset -/

def offset? : List Char → Option (Int × List Char)
  | [] => none
  | c :: cs =>
    if c = 'Z' ∨ c = 'z' then some (0, cs)
    else if c = '+' ∨ c = '-' ∨ c = '\u2212' then do
      let (hours, cs) ← exactDigits? 2 cs
      let cs ← literal? ':' cs
      let (minutes, cs) ← exactDigits? 2 cs
      if hours ≤ 23 ∧ minutes ≤ 59 then
        let seconds : Int := 3600 * hours + 60 * minutes
        some (if c = '+' then seconds else -seconds, cs)
      else none
    else none

def separator? : List Char → Option (List Char)
  | [] => none
  | c :: rest => if c = 'T' ∨ c = 't' ∨ c = ' ' then some rest else none

/-- The day in universal time of a timestamp `offset` seconds ahead of it. -/
def universalDay? (date : Date) (time : Time) (offset : Int) : Option Date :=
  Date.ofDayNumber? ((86400 * date.dayNumber + time.secondOfDay - offset) / 86400)

def readInstant? (cs : List Char) : Option Date := do
  let (year, cs) ← exactDigits? 4 cs
  let cs ← literal? '-' cs
  let (month, cs) ← exactDigits? 2 cs
  let cs ← literal? '-' cs
  let (day, cs) ← exactDigits? 2 cs
  let cs ← separator? cs
  let (hour, cs) ← exactDigits? 2 cs
  let cs ← literal? ':' cs
  let (minute, cs) ← exactDigits? 2 cs
  let cs ← literal? ':' cs
  let (second, cs) ← exactDigits? 2 cs
  let cs ← fraction? cs
  let (offset, cs) ← offset? cs
  let date ← Date.of? year month day
  let time : Time := ⟨hour, minute, second⟩
  if cs = [] ∧ time.Valid then universalDay? date time offset else none

/-! ## Milliseconds -/

def readMilliseconds? (cs : List Char) : Option Date := do
  let n ← Text.integer? cs
  if -9223372036854775808 ≤ n ∧ n < 9223372036854775808 then Date.ofDayNumber? (n / 86400000)
  else none

/-! ## All forms -/

def readers : List (List Char → Option Date) :=
  [readDay?, readInstant?, readSeconds?, readMinutes?, readSpaced?, readMilliseconds?]

/-- The date that a text names in one of the six forms; blanks around it do not count. -/
def read? (s : String) : Option Date :=
  let cs := Text.trim s.toList
  readers.findSome? fun reader => reader cs

end IndexExport.Calendar
