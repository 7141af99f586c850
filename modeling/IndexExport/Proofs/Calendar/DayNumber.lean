import IndexExport.Calendar.Date
import Mathlib.Tactic.IntervalCases
/-!
# Day numbers count days

The day number of the first of January 1970 is zero, and that of the day after is greater by
one. So every integer is the number of one day, and the formula that goes back from a number to
its day finds that day. The calendar reaches from the first day of its first year to the last day
of its last.
-/
set_option autoImplicit false

namespace IndexExport.Calendar.Date

/-- The day is one of its month, in whatever year. -/
def Proper (d : Date) : Prop :=
  1 ≤ d.month ∧ d.month ≤ 12 ∧ 1 ≤ d.day ∧ d.day ≤ daysInMonth d.year d.month

instance (d : Date) : Decidable d.Proper :=
  inferInstanceAs (Decidable (_ ∧ _))

def next (d : Date) : Date :=
  if d.day < daysInMonth d.year d.month then ⟨d.year, d.month, d.day + 1⟩
  else if d.month < 12 then ⟨d.year, d.month + 1, 1⟩
  else ⟨d.year + 1, 1, 1⟩

def previous (d : Date) : Date :=
  if 1 < d.day then ⟨d.year, d.month, d.day - 1⟩
  else if 1 < d.month then ⟨d.year, d.month - 1, daysInMonth d.year (d.month - 1)⟩
  else ⟨d.year - 1, 12, 31⟩

def epoch : Date := ⟨1970, 1, 1⟩

/-- The day with a day number, in whatever year. -/
def ofDayNumber (n : Int) : Date :=
  let days := n + 719468
  let era := days / 146097
  let dayOfEra := days % 146097
  let yearOfEra := (dayOfEra - dayOfEra / 1460 + dayOfEra / 36524 - dayOfEra / 146096) / 365
  let dayOfYear := dayOfEra - (365 * yearOfEra + yearOfEra / 4 - yearOfEra / 100)
  let month := (5 * dayOfYear + 2) / 153
  let day := dayOfYear - (153 * month + 2) / 5 + 1
  let year := yearOfEra + era * 400
  if month < 10 then ⟨year, (month + 3).toNat, day.toNat⟩
  else ⟨year + 1, (month - 9).toNat, day.toNat⟩

section Days

variable {d e : Date} {year month dayOfYear n : Int}

/-! ## One day after the other -/

theorem daysInMonth_pos (year : Int) (month : Nat) : 1 ≤ daysInMonth year month := by
  rw [daysInMonth]
  split_ifs <;> omega

theorem daysInFebruary (year : Int) :
    (daysInMonth year 2 : Int) =
      28 + (year / 4 - (year - 1) / 4) - (year / 100 - (year - 1) / 100) +
        (year / 400 - (year - 1) / 400) := by
  rw [daysInMonth, if_pos rfl, isLeap]
  split_ifs with leap <;> simp at leap <;> omega

theorem dayNumber_epoch : epoch.dayNumber = 0 := rfl

theorem proper_epoch : epoch.Proper := by decide

theorem Proper.previous (proper : d.Proper) : d.previous.Proper := by
  obtain ⟨monthPos, monthLe, dayPos, dayLe⟩ := proper
  rw [Date.previous]
  split_ifs with later later
  · exact ⟨monthPos, monthLe, by dsimp only; omega, by dsimp only; omega⟩
  · exact ⟨by dsimp only; omega, by dsimp only; omega, daysInMonth_pos _ _, Nat.le_refl _⟩
  · exact ⟨Nat.le_add_left 1 11, Nat.le_refl 12, Nat.le_add_left 1 30, Nat.le_refl 31⟩

theorem Proper.next (proper : d.Proper) : d.next.Proper := by
  obtain ⟨monthPos, monthLe, dayPos, dayLe⟩ := proper
  rw [Date.next]
  split_ifs with more more
  · exact ⟨monthPos, monthLe, by dsimp only; omega, more⟩
  · exact ⟨by dsimp only; omega, more, Nat.le_refl _, daysInMonth_pos _ _⟩
  · exact ⟨Nat.le_refl 1, Nat.le_add_left 1 11, Nat.le_refl 1, daysInMonth_pos _ _⟩

theorem next_previous (proper : d.Proper) : d.previous.next = d := by
  obtain ⟨year, month, day⟩ := d
  obtain ⟨monthPos, monthLe, dayPos, dayLe⟩ := proper
  dsimp only at monthPos monthLe dayPos dayLe
  rw [Date.previous]
  dsimp only
  split_ifs with later later
  · simp only [Date.next]
    rw [if_pos (by omega), Nat.sub_add_cancel dayPos]
  · simp only [Date.next, Nat.lt_irrefl, if_false]
    rw [if_pos (by omega), Nat.sub_add_cancel monthPos, show day = 1 by omega]
  · simp only [Date.next, daysInMonth]
    rw [show day = 1 by omega, show month = 1 by omega]
    simp

theorem dayNumber_next (proper : d.Proper) : d.next.dayNumber = d.dayNumber + 1 := by
  obtain ⟨year, month, day⟩ := d
  obtain ⟨monthPos, monthLe, dayPos, dayLe⟩ := proper
  dsimp only at monthPos monthLe dayPos dayLe
  have february := daysInFebruary year
  rw [Date.next]
  dsimp only
  split_ifs with more more
  · simp only [dayNumber]
    omega
  · have last : day = daysInMonth year month := by omega
    subst last
    -- the years of the formula begin after February; other months end as the formula says
    interval_cases month
    case «2» =>
      simp only [dayNumber, february]
      omega
    all_goals simp [dayNumber, daysInMonth]; omega
  · have last : day = daysInMonth year month := by omega
    obtain rfl : month = 12 := by omega
    subst last
    simp [dayNumber, daysInMonth]
    omega

/-- One gets to every number day by day from the first. -/
theorem exists_dayNumber_eq (n : Int) : ∃ d : Date, d.Proper ∧ d.dayNumber = n := by
  induction n with
  | zero => exact ⟨epoch, proper_epoch, dayNumber_epoch⟩
  | succ n ih =>
      obtain ⟨d, proper, same⟩ := ih
      exact ⟨d.next, proper.next, by rw [dayNumber_next proper, same]⟩
  | pred n ih =>
      obtain ⟨d, proper, same⟩ := ih
      have before := dayNumber_next proper.previous
      rw [next_previous proper] at before
      exact ⟨d.previous, proper.previous, by omega⟩

/-! ## From the number back to the day

The formula counts years from March, and four hundred of them at a time. -/

/-- Days before the first of March of a year. -/
def daysBefore (year : Int) : Int :=
  365 * year + year / 4 - year / 100 + year / 400

def marchYearLength (year : Int) : Int :=
  daysBefore (year + 1) - daysBefore year

/-- Days from the first of March to the first of a month that is counted from March. -/
def daysBeforeMonth (month : Int) : Int :=
  (153 * month + 2) / 5

def marchYear (d : Date) : Int :=
  if d.month ≤ 2 then d.year - 1 else d.year

def marchMonth (d : Date) : Int :=
  if d.month ≤ 2 then d.month + 9 else d.month - 3

def marchDay (d : Date) : Int :=
  daysBeforeMonth d.marchMonth + d.day - 1

theorem dayNumber_eq (d : Date) :
    d.dayNumber = daysBefore d.marchYear + d.marchDay - 719468 := by
  simp only [dayNumber, daysBefore, marchYear, marchDay, daysBeforeMonth, marchMonth]
  omega

theorem Proper.day_le (proper : d.Proper) :
    d.day ≤ daysBeforeMonth (d.marchMonth + 1) - daysBeforeMonth d.marchMonth ∧
      d.marchDay < marchYearLength d.marchYear := by
  obtain ⟨year, month, day⟩ := d
  obtain ⟨monthPos, monthLe, dayPos, dayLe⟩ := proper
  dsimp only at monthPos monthLe dayPos dayLe
  have february := daysInFebruary year
  simp only [marchDay, marchMonth, marchYear, daysBeforeMonth, marchYearLength, daysBefore]
  interval_cases month
  case «2» => simp; omega
  all_goals simp [daysInMonth] at dayLe ⊢; omega

/-- A day in the four centuries: how many centuries before it, how many spans of four years after
them, how many years after those, and how many days after those. -/
structure InEra (year dayOfYear century four rest : Int) : Prop where
  split : year % 400 = 100 * century + 4 * four + rest
  inEra : 0 ≤ century ∧ century ≤ 3
  inCentury : 0 ≤ four ∧ four ≤ 24
  inFour : 0 ≤ rest ∧ rest ≤ 3
  first : 0 ≤ dayOfYear
  last : dayOfYear ≤ 364 ∨ dayOfYear = 365 ∧ rest = 3 ∧ (four < 24 ∨ century = 3)

theorem exists_inEra (first : 0 ≤ dayOfYear) (last : dayOfYear < marchYearLength year) :
    ∃ century four rest, InEra year dayOfYear century four rest := by
  refine ⟨year % 400 / 100, year % 100 / 4, year % 4, by omega, by omega, by omega, by omega,
    first, ?_⟩
  rw [marchYearLength, daysBefore, daysBefore] at last
  omega

section Era

variable {century four rest dayOfEra : Int}

theorem InEra.era_eq (era : InEra year dayOfYear century four rest) :
    daysBefore year + dayOfYear =
      146097 * (year / 400) + (36524 * century + 1461 * four + 365 * rest + dayOfYear) := by
  obtain ⟨split, inEra, inCentury, inFour, -, -⟩ := era
  rw [daysBefore]
  omega

theorem InEra.within (era : InEra year dayOfYear century four rest)
    (day : dayOfEra = 36524 * century + 1461 * four + 365 * rest + dayOfYear) :
    0 ≤ dayOfEra ∧ dayOfEra < 146097 := by
  obtain ⟨-, inEra, inCentury, inFour, first, last⟩ := era
  omega

theorem InEra.dayOfYear_eq (era : InEra year dayOfYear century four rest)
    (day : dayOfEra = 36524 * century + 1461 * four + 365 * rest + dayOfYear) :
    dayOfEra - (365 * (year % 400) + year % 400 / 4 - year % 400 / 100) = dayOfYear := by
  obtain ⟨split, inEra, inCentury, inFour, -, -⟩ := era
  omega

theorem InEra.year_eq (era : InEra year dayOfYear century four rest)
    (day : dayOfEra = 36524 * century + 1461 * four + 365 * rest + dayOfYear) :
    (dayOfEra - dayOfEra / 1460 + dayOfEra / 36524 - dayOfEra / 146096) / 365 = year % 400 := by
  obtain ⟨split, inEra, inCentury, inFour, first, last⟩ := era
  -- the last day of the four centuries is the only one behind a hundredth leap day
  have lastDay : dayOfEra / 146096 = if dayOfEra = 146096 then 1 else 0 := by split <;> omega
  have centuries : dayOfEra / 36524 = if dayOfEra = 146096 then 4 else century := by
    split <;> omega
  rw [lastDay, centuries, split]
  clear split
  split <;> omega

end Era

theorem month_eq {day : Int} (pos : 1 ≤ day)
    (le : day ≤ daysBeforeMonth (month + 1) - daysBeforeMonth month) :
    (5 * (daysBeforeMonth month + day - 1) + 2) / 153 = month := by
  rw [daysBeforeMonth] at le ⊢
  rw [daysBeforeMonth] at le
  omega

theorem ofDayNumber_dayNumber (proper : d.Proper) : ofDayNumber d.dayNumber = d := by
  obtain ⟨dayLe, last⟩ := proper.day_le
  obtain ⟨monthPos, monthLe, dayPos, -⟩ := proper
  have first : 0 ≤ d.marchDay := by
    rw [marchDay, marchMonth, daysBeforeMonth]
    omega
  obtain ⟨century, four, rest, era⟩ := exists_inEra first last
  obtain ⟨dayOfEra, day⟩ :
      ∃ dayOfEra, dayOfEra = 36524 * century + 1461 * four + 365 * rest + d.marchDay := ⟨_, rfl⟩
  have days : d.dayNumber + 719468 = 146097 * (d.marchYear / 400) + dayOfEra := by
    rw [day, ← era.era_eq, dayNumber_eq]
    omega
  have within := era.within day
  have month := month_eq (by omega) dayLe
  rw [← marchDay] at month
  have dayOfMonth : d.marchDay - (153 * d.marchMonth + 2) / 5 + 1 = d.day := by
    rw [marchDay, daysBeforeMonth]
    omega
  rw [ofDayNumber]
  simp only [show (d.dayNumber + 719468) / 146097 = d.marchYear / 400 by omega,
    show (d.dayNumber + 719468) % 146097 = dayOfEra by omega, era.year_eq day,
    era.dayOfYear_eq day, month, dayOfMonth, Int.toNat_natCast]
  obtain ⟨year, month, dayOfMonth⟩ := d
  simp only [marchMonth, marchYear] at monthPos monthLe ⊢
  split_ifs <;> simp only [mk.injEq, and_true] <;> omega

theorem dayNumber_ofDayNumber (n : Int) :
    (ofDayNumber n).Proper ∧ (ofDayNumber n).dayNumber = n := by
  obtain ⟨d, proper, rfl⟩ := exists_dayNumber_eq n
  rw [ofDayNumber_dayNumber proper]
  exact ⟨proper, rfl⟩

theorem valid_iff :
    d.Valid ↔ firstYear ≤ d.year ∧ d.year ≤ lastYear ∧ d.Proper := Iff.rfl

theorem ofDayNumber?_eq (n : Int) :
    ofDayNumber? n = if (ofDayNumber n).Valid then some (ofDayNumber n) else none := by
  rw [ofDayNumber?, ofDayNumber]
  split <;> rfl

/-- The calendar finds the day of a number and no other. -/
theorem ofDayNumber?_eq_some_iff :
    ofDayNumber? n = some d ↔ d.Valid ∧ d.dayNumber = n := by
  rw [ofDayNumber?_eq]
  constructor
  · intro found
    split at found
    · next valid =>
      cases found
      exact ⟨valid, (dayNumber_ofDayNumber n).2⟩
    · cases found
  · rintro ⟨valid, rfl⟩
    rw [ofDayNumber_dayNumber valid.2.2, if_pos valid]

/-! ## How far the calendar reaches -/

def newYear (year : Int) : Int :=
  dayNumber ⟨year, 1, 1⟩

theorem Proper.newYear_le (proper : d.Proper) :
    newYear d.year ≤ d.dayNumber ∧ d.dayNumber < newYear (d.year + 1) := by
  obtain ⟨year, month, day⟩ := d
  obtain ⟨monthPos, monthLe, dayPos, dayLe⟩ := proper
  dsimp only at monthPos monthLe dayPos dayLe
  have february := daysInFebruary year
  simp only [newYear, dayNumber]
  interval_cases month
  case «2» => simp; omega
  all_goals simp [daysInMonth] at dayLe ⊢; omega

theorem newYear_mono {later : Int} (le : year ≤ later) : newYear year ≤ newYear later := by
  simp only [newYear, dayNumber]
  norm_num
  omega

def firstDay : Date := ⟨firstYear, 1, 1⟩

def lastDay : Date := ⟨lastYear, 12, 31⟩

theorem exists_ofDayNumber?_iff (n : Int) :
    (∃ d, ofDayNumber? n = some d) ↔ firstDay.dayNumber ≤ n ∧ n ≤ lastDay.dayNumber := by
  have afterLast : lastDay.dayNumber + 1 = newYear (lastYear + 1) := rfl
  have first : firstDay.dayNumber = newYear firstYear := rfl
  constructor
  · rintro ⟨d, found⟩
    obtain ⟨⟨low, high, proper⟩, rfl⟩ := ofDayNumber?_eq_some_iff.mp found
    have within := Proper.newYear_le proper
    have notBefore := newYear_mono low
    have notAfter := newYear_mono (Int.add_le_add_right high 1)
    omega
  · rintro ⟨low, high⟩
    obtain ⟨d, proper, rfl⟩ := exists_dayNumber_eq n
    have within := proper.newYear_le
    refine ⟨d, ofDayNumber?_eq_some_iff.mpr ⟨⟨?_, ?_, proper⟩, rfl⟩⟩
    · by_contra early
      have before := newYear_mono (Int.not_le.mp early : d.year + 1 ≤ firstYear)
      omega
    · by_contra late
      have after := newYear_mono (Int.not_le.mp late : lastYear + 1 ≤ d.year)
      omega

end Days

end IndexExport.Calendar.Date
