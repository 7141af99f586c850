import IndexExport.Calendar.Reading
import IndexExport.Proofs.Calendar.DayNumber
import IndexExport.Proofs.Text.Digits
/-!
# Spellings of an instant

An instant can be written as the day it falls on, as a timestamp with or without an offset from
universal time, and in milliseconds. Each of these spellings is read as the day of its instant in
universal time: the forms that are tried before the right one do not fit.
-/
set_option autoImplicit false

namespace IndexExport.Calendar

open Text (padded)

/-! ## Pieces -/

section Pieces

variable {n width : Nat} {d : Date} {t : Time} {rest : List Char}

@[simp] theorem literal?_self (c : Char) (rest : List Char) : literal? c (c :: rest) = some rest :=
  if_pos rfl

theorem padded_cons (width n : Nat) :
    ∃ c cs, padded width n = c :: cs ∧ c.isDigit = true := by
  obtain ⟨c, cs, digits⟩ : ∃ c cs, padded width n = c :: cs := by
    apply List.exists_cons_of_ne_nil
    simp [padded, Text.decimal]
  have member : c ∈ padded width n := by
    rw [digits]
    exact List.mem_cons_self
  exact ⟨c, cs, digits, Text.isDigit_of_mem_padded member⟩

theorem takeWhile_padded (some : 0 < width) (fits : n < 10 ^ width) (rest : List Char) :
    ((padded width n ++ rest).take width).takeWhile Char.isDigit = padded width n := by
  rw [List.take_left' (Text.length_padded some fits),
    List.takeWhile_eq_self_iff.mpr fun c => Text.isDigit_of_mem_padded]

theorem exactDigits?_padded (some : 0 < width) (fits : n < 10 ^ width) :
    exactDigits? width (padded width n ++ rest) = .some (n, rest) := by
  rw [exactDigits?, takeWhile_padded some fits]
  rw [if_pos (Text.length_padded some fits), Text.ofDigits_padded,
    List.drop_left' (Text.length_padded some fits)]

theorem digits?_padded (some : 0 < width) (fits : n < 10 ^ width) :
    digits? width (padded width n ++ rest) = .some (n, rest) := by
  have long := Text.length_padded some fits
  have notEmpty : padded width n ≠ [] := List.ne_nil_of_length_pos (by omega)
  rw [digits?, takeWhile_padded some fits]
  rw [if_neg notEmpty, Text.ofDigits_padded, List.drop_left' rfl]

theorem item?_padded (fits : n < 100) : item? (padded 2 n ++ rest) = some (n, rest) := by
  have start : Text.trimStart (padded 2 n ++ rest) = padded 2 n ++ rest := by
    obtain ⟨c, cs, digits, digit⟩ := padded_cons 2 n
    rw [digits]
    exact Text.trimStart_of_isDigit digit _
  rw [item?, start, digits?_padded (by decide) fits]

theorem year?_padded (fits : n < 10000) : year? (padded 4 n ++ rest) = some ((n : Int), rest) := by
  obtain ⟨c, cs, digits, digit⟩ := padded_cons 4 n
  have read : digits? 4 (padded 4 n ++ rest) = some (n, rest) := digits?_padded (by decide) fits
  rw [digits, List.cons_append] at read ⊢
  rw [year?, Text.trimStart_of_isDigit digit]
  split
  · next same =>
    cases same
    cases digit
  · next same =>
    cases same
    cases digit
  · rw [read]
    rfl

/-- A date with a year of four digits. -/
structure Written (d : Date) : Prop where
  low : 0 ≤ d.year
  high : d.year ≤ 9999
  proper : d.Proper

theorem Written.valid (written : Written d) : d.Valid := by
  obtain ⟨low, high, proper⟩ := written
  rw [Date.valid_iff, firstYear, lastYear]
  exact ⟨by omega, by omega, proper⟩

theorem Written.of?_eq (written : Written d) : Date.of? d.year d.month d.day = some d :=
  if_pos written.valid

theorem Written.day_lt (written : Written d) : d.month < 100 ∧ d.day < 100 := by
  obtain ⟨-, monthLe, -, dayLe⟩ := written.proper
  rw [daysInMonth] at dayLe
  split_ifs at dayLe <;> omega

theorem Written.render_append (written : Written d) (rest : List Char) :
    d.render ++ rest = padded 4 d.year.toNat ++ '-' :: (padded 2 d.month ++
      '-' :: (padded 2 d.day ++ rest)) := by
  rw [Date.render, Date.yearText, if_pos ⟨written.low, written.high⟩]
  simp only [List.append_assoc, List.cons_append]

theorem looseDate?_render (written : Written d) (rest : List Char) :
    looseDate? (d.render ++ rest) = some (d, rest) := by
  have year : ((d.year.toNat : Nat) : Int) = d.year := Int.toNat_of_nonneg written.low
  have short : d.year.toNat < 10000 := by
    have high := written.high
    omega
  rw [written.render_append, looseDate?]
  simp only [Option.bind_eq_bind, year?_padded short, item?_padded written.day_lt.1,
    item?_padded written.day_lt.2, literal?_self, Option.bind_some, year, written.of?_eq]
  rfl

/-- A time of day in pairs of digits, which is no leap second. -/
structure OnClock (t : Time) : Prop where
  hour : t.hour ≤ 23
  minute : t.minute ≤ 59
  second : t.second ≤ 59

theorem OnClock.valid (clock : OnClock t) : t.Valid :=
  ⟨clock.hour, clock.minute, Nat.le_succ_of_le clock.second⟩

theorem OnClock.short (clock : OnClock t) : t.hour < 100 ∧ t.minute < 100 ∧ t.second < 100 := by
  obtain ⟨hour, minute, second⟩ := clock
  omega

/-- Hour and minute with a colon between them. -/
def pairText (hours minutes : Nat) : List Char :=
  padded 2 hours ++ ':' :: padded 2 minutes

def Time.render (t : Time) : List Char :=
  pairText t.hour t.minute ++ ':' :: padded 2 t.second

theorem pairText_append (hours minutes : Nat) (rest : List Char) :
    pairText hours minutes ++ rest =
      padded 2 hours ++ ':' :: (padded 2 minutes ++ rest) := by
  rw [pairText, List.append_assoc, List.cons_append]

theorem looseMinutes?_pairText {hours minutes : Nat} (short : hours < 100 ∧ minutes < 100) :
    looseMinutes? (pairText hours minutes ++ rest) = some (⟨hours, minutes, 0⟩, rest) := by
  rw [pairText_append, looseMinutes?]
  simp only [Option.bind_eq_bind, item?_padded short.1, item?_padded short.2, literal?_self,
    Option.bind_some]
  rfl

theorem looseMinutes?_pairText_nil {hours minutes : Nat} (short : hours < 100 ∧ minutes < 100) :
    looseMinutes? (pairText hours minutes) = some (⟨hours, minutes, 0⟩, []) := by
  rw [← List.append_nil (pairText hours minutes), looseMinutes?_pairText short]

theorem looseTime?_render (clock : OnClock t) : looseTime? t.render = some (t, []) := by
  obtain ⟨hour, minute, second⟩ := clock.short
  have seconds : item? (padded 2 t.second) = some (t.second, []) := by
    rw [← List.append_nil (padded 2 t.second), item?_padded second]
  rw [Time.render, looseTime?]
  simp only [Option.bind_eq_bind, looseMinutes?_pairText ⟨hour, minute⟩, literal?_self, seconds,
    Option.bind_some]
  rfl

/-- How far a clock is from universal time. -/
inductive Offset where
  | universal
  | ahead (hours minutes : Nat)
  | behind (hours minutes : Nat)

/-- The offset is less than a day. -/
def Offset.Proper : Offset → Prop
  | .universal => True
  | .ahead hours minutes | .behind hours minutes => hours ≤ 23 ∧ minutes ≤ 59

/-- The letter for universal time, or hours and minutes with their sign. -/
def Offset.render : Offset → List Char
  | .universal => ['Z']
  | .ahead hours minutes => '+' :: pairText hours minutes
  | .behind hours minutes => '-' :: pairText hours minutes

def Offset.seconds : Offset → Int
  | .universal => 0
  | .ahead hours minutes => 3600 * hours + 60 * minutes
  | .behind hours minutes => -(3600 * hours + 60 * minutes)

theorem exactDigits?_pair (short : n < 100) :
    exactDigits? 2 (padded 2 n ++ rest) = some (n, rest) :=
  exactDigits?_padded (by decide) short

theorem exactDigits?_pair_nil (short : n < 100) :
    exactDigits? 2 (padded 2 n) = some (n, []) := by
  rw [← List.append_nil (padded 2 n), exactDigits?_pair short]

theorem offset?_render {offset : Offset} (proper : offset.Proper) :
    offset? offset.render = some (offset.seconds, []) := by
  cases offset with
  | universal => rfl
  | ahead hours minutes | behind hours minutes =>
      obtain ⟨hoursLe, minutesLe⟩ := proper
      simp [Offset.render, offset?, pairText, exactDigits?_pair (show hours < 100 by omega),
        exactDigits?_pair_nil (show minutes < 100 by omega), hoursLe, minutesLe, Offset.seconds]

theorem bind_of_some {α β : Type} {found : Option α} {a : α} (some : found = .some a)
    (next : α → Option β) : (found >>= next) = next a := by
  rw [some]
  rfl

theorem bind_of_none {α β : Type} {found : Option α} (none : found = .none)
    (next : α → Option β) : (found >>= next) = .none := by
  rw [none]
  rfl

/-- The strict form behind the date. -/
def instantOn? (date : Option Date) (cs : List Char) : Option Date := do
  let cs ← separator? cs
  let (hour, cs) ← exactDigits? 2 cs
  let cs ← literal? ':' cs
  let (minute, cs) ← exactDigits? 2 cs
  let cs ← literal? ':' cs
  let (second, cs) ← exactDigits? 2 cs
  let cs ← fraction? cs
  let (offset, cs) ← offset? cs
  let date ← date
  let time : Time := ⟨hour, minute, second⟩
  if cs = [] ∧ time.Valid then universalDay? date time offset else none

theorem readInstant?_render (written : Written d) (rest : List Char) :
    readInstant? (d.render ++ rest) = instantOn? (some d) rest := by
  have year : ((d.year.toNat : Nat) : Int) = d.year := Int.toNat_of_nonneg written.low
  have short : d.year.toNat < 10 ^ 4 := by
    have high := written.high
    omega
  rw [written.render_append]
  refine (bind_of_some (exactDigits?_padded (by decide) short) _).trans ?_
  refine (bind_of_some (literal?_self _ _) _).trans ?_
  refine (bind_of_some (exactDigits?_pair written.day_lt.1) _).trans ?_
  refine (bind_of_some (literal?_self _ _) _).trans ?_
  refine (bind_of_some (exactDigits?_pair written.day_lt.2) _).trans ?_
  change instantOn? (Date.of? (d.year.toNat : Nat) d.month d.day) rest = _
  rw [year, written.of?_eq]

/-- A date and a time of day are read, and the offset is next. -/
theorem readInstant?_timestamp (written : Written d) (clock : OnClock t) {separator : Char}
    (separates : separator = 'T' ∨ separator = ' ') (solid : fraction? rest = some rest) :
    readInstant? (d.render ++ separator :: (t.render ++ rest)) =
      (offset? rest).bind fun found =>
        if found.2 = [] ∧ t.Valid then universalDay? d t found.1 else none := by
  obtain ⟨hour, minute, second⟩ := clock.short
  have separated : separator? (separator :: (t.render ++ rest)) = some (t.render ++ rest) := by
    rcases separates with rfl | rfl <;> rfl
  rw [readInstant?_render written]
  refine (bind_of_some separated _).trans ?_
  rw [Time.render, List.append_assoc, pairText_append, List.cons_append]
  refine (bind_of_some (exactDigits?_pair hour) _).trans ?_
  refine (bind_of_some (literal?_self _ _) _).trans ?_
  refine (bind_of_some (exactDigits?_pair minute) _).trans ?_
  refine (bind_of_some (literal?_self _ _) _).trans ?_
  refine (bind_of_some (exactDigits?_pair second) _).trans ?_
  exact bind_of_some solid _

theorem readInstant?_offset (written : Written d) (clock : OnClock t) {offset : Offset}
    (proper : offset.Proper) :
    readInstant? (d.render ++ 'T' :: (t.render ++ offset.render)) =
      universalDay? d t offset.seconds := by
  have solid : fraction? offset.render = some offset.render := by cases offset <;> rfl
  rw [readInstant?_timestamp written clock (.inl rfl) solid, offset?_render proper,
    Option.bind_some, if_pos ⟨rfl, clock.valid⟩]

theorem readInstant?_of_no_offset (written : Written d) (clock : OnClock t) {separator : Char}
    (separates : separator = 'T' ∨ separator = ' ') :
    readInstant? (d.render ++ separator :: t.render) = none := by
  have read : readInstant? (d.render ++ separator :: (t.render ++ [])) = none :=
    readInstant?_timestamp written clock separates rfl
  rwa [List.append_nil] at read

theorem readInstant?_of_no_second (written : Written d) {hours minutes : Nat}
    (short : hours < 100 ∧ minutes < 100) :
    readInstant? (d.render ++ 'T' :: pairText hours minutes) = none := by
  rw [readInstant?_render written]
  refine (bind_of_some (show separator? _ = some _ from rfl) _).trans ?_
  rw [pairText]
  refine (bind_of_some (exactDigits?_pair short.1) _).trans ?_
  refine (bind_of_some (literal?_self _ _) _).trans ?_
  refine (bind_of_some (exactDigits?_pair_nil short.2) _).trans ?_
  exact bind_of_none rfl _

/-! ## Loose forms -/

theorem readDay?_render (written : Written d) : readDay? d.render = some d := by
  have read := looseDate?_render written []
  rw [List.append_nil] at read
  rw [readDay?, read]

theorem readDay?_of_more (written : Written d) (c : Char) (rest : List Char) :
    readDay? (d.render ++ c :: rest) = none := by
  rw [readDay?, looseDate?_render written]

theorem readSeconds?_render (written : Written d) (rest : List Char) :
    readSeconds? (d.render ++ rest) =
      (literal? 'T' rest).bind fun cs => (looseTime? cs).bind (finish? d) :=
  bind_of_some (looseDate?_render written rest) _

theorem readMinutes?_render (written : Written d) (rest : List Char) :
    readMinutes? (d.render ++ rest) =
      (literal? 'T' rest).bind fun cs => (looseMinutes? cs).bind (finish? d) :=
  bind_of_some (looseDate?_render written rest) _

theorem readSpaced?_render (written : Written d) (rest : List Char) :
    readSpaced? (d.render ++ rest) = (looseTime? (Text.trimStart rest)).bind (finish? d) :=
  bind_of_some (looseDate?_render written rest) _

theorem finish?_of_valid (valid : t.Valid) : finish? d (t, []) = some d :=
  if_pos valid

theorem readSeconds?_time (written : Written d) (clock : OnClock t) :
    readSeconds? (d.render ++ 'T' :: t.render) = some d := by
  rw [readSeconds?_render written, literal?_self, Option.bind_some, looseTime?_render clock,
    Option.bind_some, finish?_of_valid clock.valid]

theorem looseTime?_of_no_second {hours minutes : Nat} (short : hours < 100 ∧ minutes < 100) :
    looseTime? (pairText hours minutes) = none := by
  exact (bind_of_some (looseMinutes?_pairText_nil short) _).trans (bind_of_none rfl _)

theorem readMinutes?_time (written : Written d) {hours minutes : Nat} (hour : hours ≤ 23)
    (minute : minutes ≤ 59) :
    readMinutes? (d.render ++ 'T' :: pairText hours minutes) = some d := by
  have short : hours < 100 ∧ minutes < 100 := by omega
  rw [readMinutes?_render written, literal?_self, Option.bind_some,
    looseMinutes?_pairText_nil short, Option.bind_some,
    finish?_of_valid ⟨hour, minute, Nat.zero_le 60⟩]

theorem readSpaced?_time (written : Written d) (clock : OnClock t) :
    readSpaced? (d.render ++ ' ' :: t.render) = some d := by
  have start : Text.trimStart (' ' :: t.render) = t.render := by
    obtain ⟨c, cs, digits, digit⟩ := padded_cons 2 t.hour
    rw [Text.trimStart, List.dropWhile_cons_of_pos (by decide), Time.render, pairText, digits]
    exact Text.trimStart_of_isDigit digit _
  rw [readSpaced?_render written, start, looseTime?_render clock, Option.bind_some,
    finish?_of_valid clock.valid]

/-! ## Whole numbers

A number has no hyphen behind its sign, so it is no date. -/

theorem literal?_of_digits {cs : List Char} (digits : ∀ c ∈ cs, c.isDigit = true) :
    literal? '-' cs = none := by
  cases cs with
  | nil => rfl
  | cons c cs =>
      apply if_neg
      rintro rfl
      exact absurd (digits '-' List.mem_cons_self) (by decide)

theorem digits_of_digits? {cs after : List Char} (digits : ∀ c ∈ cs, c.isDigit = true)
    (read : digits? width cs = some (n, after)) : ∀ c ∈ after, c.isDigit = true := by
  rw [digits?] at read
  split at read
  · cases read
  · cases read
    exact fun c member => digits c (List.mem_of_mem_drop member)

theorem looseDate?_of_no_hyphen {cs : List Char}
    (after : ∀ year rest, year? cs = some (year, rest) → literal? '-' rest = none) :
    looseDate? cs = none := by
  cases read : year? cs with
  | none => exact bind_of_none read _
  | some found => exact (bind_of_some read _).trans (bind_of_none (after _ _ read) _)

theorem looseDate?_of_integer? {cs : List Char} {count : Int}
    (number : Text.integer? cs = some count) : looseDate? cs = none := by
  apply looseDate?_of_no_hyphen
  intro year rest read
  apply literal?_of_digits
  rw [Text.integer?.eq_def] at number
  split at number
  · obtain ⟨n, digits, -⟩ := Option.map_eq_some_iff.mp number
    obtain ⟨⟨_, after⟩, found, same⟩ := Option.map_eq_some_iff.mp read
    cases same
    exact digits_of_digits? (Text.digits_of_natural? digits).2 found
  · obtain ⟨_, negated, -⟩ := Option.map_eq_some_iff.mp number
    obtain ⟨n, digits, -⟩ := Option.bind_eq_some_iff.mp negated
    obtain ⟨⟨_, after⟩, found, same⟩ := Option.map_eq_some_iff.mp read
    cases same
    exact digits_of_digits? (Text.digits_of_natural? digits).2 found
  · next noPlus noMinus =>
    obtain ⟨n, digits, -⟩ := Option.map_eq_some_iff.mp number
    obtain ⟨some, all⟩ := Text.digits_of_natural? digits
    obtain ⟨c, more, rfl⟩ := List.exists_cons_of_ne_nil some
    rw [year?, Text.trimStart_of_isDigit (all c List.mem_cons_self)] at read
    split at read
    · next same => exact absurd same (noMinus _)
    · next same => exact absurd same (noPlus _)
    · obtain ⟨⟨_, after⟩, found, same⟩ := Option.map_eq_some_iff.mp read
      cases same
      exact digits_of_digits? all found

theorem readInstant?_signedDecimal (count : Int) :
    readInstant? (Text.signedDecimal count) = none := by
  cases count with
  | negSucc n =>
      exact bind_of_none rfl _
  | ofNat n =>
      cases read : exactDigits? 4 (Text.decimal n) with
      | none => exact bind_of_none read _
      | some found =>
          refine (bind_of_some read _).trans (bind_of_none (literal?_of_digits ?_) _)
          rw [exactDigits?] at read
          split at read
          · cases read
            exact fun c member => Text.isDigit_of_mem_decimal (List.mem_of_mem_drop member)
          · cases read

end Pieces

/-! ## Spellings -/

inductive Spelling where
  | day (date : Date)
  | toSecond (date : Date) (time : Time)
  | toMinute (date : Date) (hours minutes : Nat)
  | spaced (date : Date) (time : Time)
  | shifted (date : Date) (time : Time) (offset : Offset)
  | milliseconds (count : Int)

namespace Spelling

/-- Dates have years of four digits, times are on the clock, and a count of milliseconds is a
signed word of 64 bits. -/
def Proper : Spelling → Prop
  | .day date => Written date
  | .toSecond date time | .spaced date time => Written date ∧ OnClock time
  | .toMinute date hours minutes => Written date ∧ hours ≤ 23 ∧ minutes ≤ 59
  | .shifted date time offset => Written date ∧ OnClock time ∧ offset.Proper
  | .milliseconds count => -9223372036854775808 ≤ count ∧ count < 9223372036854775808

def render : Spelling → List Char
  | .day date => date.render
  | .toSecond date time => date.render ++ 'T' :: time.render
  | .toMinute date hours minutes => date.render ++ 'T' :: pairText hours minutes
  | .spaced date time => date.render ++ ' ' :: time.render
  | .shifted date time offset => date.render ++ 'T' :: (time.render ++ offset.render)
  | .milliseconds count => Text.signedDecimal count

/-- Seconds from the first of January 1970 to a time on the clock of a place. -/
def localSeconds (date : Date) (hours minutes seconds : Nat) : Int :=
  86400 * date.dayNumber + 3600 * hours + 60 * minutes + seconds

/-- Milliseconds from the first of January 1970 to the instant in universal time. A clock that is
ahead shows it later than it is. -/
def instant : Spelling → Int
  | .day date => 1000 * localSeconds date 0 0 0
  | .toSecond date time | .spaced date time =>
    1000 * localSeconds date time.hour time.minute time.second
  | .toMinute date hours minutes => 1000 * localSeconds date hours minutes 0
  | .shifted date time offset =>
    1000 * (localSeconds date time.hour time.minute time.second - offset.seconds)
  | .milliseconds count => count

/-- The day on which the instant falls in universal time, if the calendar reaches so far. -/
def universalDay? (s : Spelling) : Option Date :=
  Date.ofDayNumber? (s.instant / 86400000)

/-- The date that stands in a spelling without an offset. -/
def named? : Spelling → Option Date
  | .day date | .toSecond date _ | .toMinute date _ _ | .spaced date _ => some date
  | .shifted .. | .milliseconds _ => none

section Reading

variable {s : Spelling} {d : Date} {t : Time} {hours minutes seconds : Nat}

/-! ### The day of the instant -/

theorem ofDayNumber?_of_within (valid : d.Valid) (hour : hours ≤ 23) (minute : minutes ≤ 59)
    (second : seconds ≤ 59) :
    Date.ofDayNumber? (1000 * localSeconds d hours minutes seconds / 86400000) = some d := by
  rw [Date.ofDayNumber?_eq_some_iff]
  refine ⟨valid, ?_⟩
  rw [localSeconds]
  omega

/-- The day that a spelling without an offset names is the day of its instant. -/
theorem universalDay?_of_named (proper : s.Proper) (named : s.named? = some d) :
    s.universalDay? = some d := by
  have zero := Nat.zero_le
  cases s with
  | day date =>
      cases named
      exact ofDayNumber?_of_within (Written.valid proper) (zero _) (zero _) (zero _)
  | toMinute date hours minutes =>
      cases named
      exact ofDayNumber?_of_within proper.1.valid proper.2.1 proper.2.2 (zero _)
  | toSecond date time | spaced date time =>
      cases named
      obtain ⟨written, hour, minute, second⟩ := proper
      exact ofDayNumber?_of_within written.valid hour minute second
  | shifted | milliseconds => cases named

theorem exists_universalDay? (written : Written d) {n : Int} (low : d.dayNumber - 1 ≤ n)
    (high : n ≤ d.dayNumber + 1) : ∃ day, Date.ofDayNumber? n = some day := by
  have within := written.proper.newYear_le
  have notBefore := Date.newYear_mono written.low
  have notAfter := Date.newYear_mono (Int.add_le_add_right written.high 1)
  have first : Date.firstDay.dayNumber < Date.newYear 0 - 1 := by decide
  have last : Date.newYear (9999 + 1) + 1 < Date.lastDay.dayNumber := by decide
  exact (Date.exists_ofDayNumber?_iff n).mpr (by omega)

theorem offset_seconds_within {offset : Offset} (proper : offset.Proper) :
    -86400 < offset.seconds ∧ offset.seconds < 86400 := by
  cases offset <;> simp only [Offset.Proper, Offset.seconds] at proper ⊢ <;> omega

/-- A timestamp of the strict form has a day. -/
theorem exists_universalDay?_of_offset {offset : Offset}
    (proper : (Spelling.shifted d t offset).Proper) :
    ∃ day, (Spelling.shifted d t offset).universalDay? = some day := by
  obtain ⟨written, ⟨hour, minute, second⟩, less⟩ := proper
  have within := offset_seconds_within less
  apply exists_universalDay? written <;> rw [instant, localSeconds] <;> omega

theorem universalDay?_offset (clock : OnClock t) (offset : Offset) :
    Calendar.universalDay? d t offset.seconds = (Spelling.shifted d t offset).universalDay? := by
  have second := clock.second
  have same : t.secondOfDay = 3600 * t.hour + 60 * t.minute + t.second := by
    rw [Time.secondOfDay, Nat.min_eq_left second]
  rw [Calendar.universalDay?, universalDay?, instant, localSeconds, same]
  congr 1
  omega

/-! ### The text -/

theorem bounded_of_digits {cs : List Char} (some : cs ≠ [])
    (digits : ∀ c ∈ cs, c.isDigit = true) : Text.Bounded cs :=
  Text.bounded_of_solid some fun c member => Text.not_isBlank_of_isDigit (digits c member)

theorem bounded_padded (width n : Nat) : Text.Bounded (padded width n) := by
  obtain ⟨c, cs, digits, -⟩ := padded_cons width n
  have some : padded width n ≠ [] := by
    rw [digits]
    exact List.cons_ne_nil c cs
  exact bounded_of_digits some fun c => Text.isDigit_of_mem_padded

theorem bounded_date (written : Written d) : Text.Bounded d.render := by
  rw [Date.render, Date.yearText, if_pos ⟨written.low, written.high⟩]
  exact ((bounded_padded 4 _).append (bounded_padded 2 _) ['-']).append (bounded_padded 2 _) ['-']

theorem bounded_pairText (hours minutes : Nat) : Text.Bounded (pairText hours minutes) :=
  (bounded_padded 2 hours).append (bounded_padded 2 minutes) [':']

theorem bounded_time (t : Time) : Text.Bounded t.render :=
  (bounded_pairText t.hour t.minute).append (bounded_padded 2 t.second) [':']

theorem bounded_offset (offset : Offset) : Text.Bounded offset.render := by
  cases offset with
  | universal =>
      exact Text.bounded_of_solid (List.cons_ne_nil _ _) (List.forall_mem_singleton.mpr rfl)
  | ahead hours minutes | behind hours minutes => exact (bounded_pairText hours minutes).cons rfl

theorem bounded_signedDecimal (count : Int) : Text.Bounded (Text.signedDecimal count) := by
  have bounded : ∀ n, Text.Bounded (Text.decimal n) := fun n =>
    bounded_of_digits Nat.toDigits_ne_nil fun c => Text.isDigit_of_mem_decimal
  cases count with
  | ofNat n => exact bounded n
  | negSucc n => exact (bounded (n + 1)).cons rfl

theorem bounded_render (proper : s.Proper) : Text.Bounded s.render := by
  cases s with
  | day date => exact bounded_date proper
  | toSecond date time => exact (bounded_date proper.1).append (bounded_time time) ['T']
  | toMinute date hours minutes =>
      exact (bounded_date proper.1).append (bounded_pairText hours minutes) ['T']
  | spaced date time => exact (bounded_date proper.1).append (bounded_time time) [' ']
  | shifted date time offset =>
      exact (bounded_date proper.1).append (bounded_offset offset) ('T' :: time.render)
  | milliseconds count => exact bounded_signedDecimal count

/-- Of the forms the right one is the first that fits. -/
theorem findSome?_readers (proper : s.Proper) :
    readers.findSome? (fun reader => reader s.render) = s.universalDay? := by
  have named := fun date => universalDay?_of_named (d := date) proper
  rw [readers]
  simp only [List.findSome?_cons, List.findSome?_nil]
  cases s with
  | day date =>
      have written : Written date := proper
      rw [render, readDay?_render written]
      exact (named date rfl).symm
  | toSecond date time =>
      obtain ⟨written, clock⟩ := proper
      rw [render, readDay?_of_more written, readInstant?_of_no_offset written clock (.inl rfl),
        readSeconds?_time written clock]
      exact (named date rfl).symm
  | toMinute date hours minutes =>
      -- both forms with a second miss the colon before it
      obtain ⟨written, hour, minute⟩ := proper
      have short : hours < 100 ∧ minutes < 100 := by omega
      rw [render, readDay?_of_more written, readInstant?_of_no_second written short,
        readSeconds?_render written, literal?_self, Option.bind_some,
        looseTime?_of_no_second short, Option.bind_none, readMinutes?_time written hour minute]
      exact (named date rfl).symm
  | spaced date time =>
      -- the strict form takes the space for its letter, and then misses the offset
      obtain ⟨written, clock⟩ := proper
      have noLetter : literal? 'T' (' ' :: time.render) = none := rfl
      rw [render, readDay?_of_more written, readInstant?_of_no_offset written clock (.inr rfl),
        readSeconds?_render written, readMinutes?_render written, noLetter, Option.bind_none,
        Option.bind_none, readSpaced?_time written clock]
      exact (named date rfl).symm
  | shifted date time offset =>
      -- a day that the calendar did not have would be left to the forms behind
      obtain ⟨day, found⟩ := exists_universalDay?_of_offset proper
      obtain ⟨written, clock, less⟩ := proper
      rw [render, readDay?_of_more written, readInstant?_offset written clock less,
        universalDay?_offset clock, found]
  | milliseconds count =>
      have none := looseDate?_of_integer? (Text.integer?_signedDecimal count)
      have number : readMilliseconds? (Text.signedDecimal count) =
          Date.ofDayNumber? (count / 86400000) :=
        (bind_of_some (Text.integer?_signedDecimal count) _).trans (if_pos proper)
      rw [render, readDay?, readInstant?_signedDecimal, readSeconds?, readMinutes?, readSpaced?,
        none, number]
      cases found : Date.ofDayNumber? (count / 86400000) <;>
        simp [universalDay?, instant, found]

/-- The text is the spelling with blanks around it. -/
def Spells (s : Spelling) (text : String) : Prop :=
  s.Proper ∧ ∃ front back, (∀ c ∈ front, Text.isBlank c = true) ∧
    (∀ c ∈ back, Text.isBlank c = true) ∧ text = String.ofList (front ++ s.render ++ back)

theorem Spells.trim_eq {text : String} (spells : s.Spells text) :
    Text.trim text.toList = s.render := by
  obtain ⟨proper, front, back, before, after, rfl⟩ := spells
  rw [String.toList_ofList, Text.trim_surrounded before after (bounded_render proper)]

/-- A spelling is read as the day of its instant in universal time. -/
theorem Spells.read?_eq {text : String} (spells : s.Spells text) :
    read? text = s.universalDay? := by
  rw [read?, spells.trim_eq]
  exact findSome?_readers spells.1

/-- Only a number may lie where the calendar does not reach. -/
theorem exists_universalDay?_or (proper : s.Proper) :
    (∃ count, s = .milliseconds count) ∨ ∃ day, s.universalDay? = some day := by
  cases s with
  | milliseconds count => exact .inl ⟨count, rfl⟩
  | shifted date time offset => exact .inr (exists_universalDay?_of_offset proper)
  | day date | toSecond date | toMinute date | spaced date =>
      exact .inr ⟨date, universalDay?_of_named proper rfl⟩

/-- A text that is neither a date nor a number spells nothing. -/
theorem Spells.date_or_number {text : String} (spells : s.Spells text) :
    read? text ≠ none ∨ Text.integer? (Text.trim text.toList) ≠ none := by
  rcases exists_universalDay?_or spells.1 with ⟨count, rfl⟩ | ⟨day, found⟩
  · rw [spells.trim_eq, render, Text.integer?_signedDecimal]
    exact .inr (Option.some_ne_none count)
  · rw [spells.read?_eq, found]
    exact .inl (Option.some_ne_none day)

end Reading

end Spelling

end IndexExport.Calendar
