import IndexExport.Filter.Fragment
import IndexExport.Proofs.Calendar.Forms
/-!
# Dates in the query

However loosely a date is written in a filter, it stands in the query in one form only: year,
month and day in digits, and midnight in universal time. A date with a year of four digits is read
back from that form, and so it does not change when it is written again.
-/
set_option autoImplicit false

namespace IndexExport.Filter

open Calendar (Date Spelling Written)

/-- Digits that spell a number. -/
structure Spells (n : Nat) (ds : List Char) : Prop where
  digits : ∀ d ∈ ds, d.isDigit = true
  value : Text.ofDigits ds = n

/-- Four digits for the years from 0 to 9999; for the others a sign and at least four. -/
inductive SpellsYear (year : Int) : List Char → Prop where
  | four {ds : List Char} (within : 0 ≤ year ∧ year ≤ 9999) (long : ds.length = 4)
      (spells : Spells year.toNat ds) : SpellsYear year ds
  | before {ds : List Char} (low : year < 0) (long : 4 ≤ ds.length)
      (spells : Spells year.natAbs ds) : SpellsYear year ('-' :: ds)
  | after {ds : List Char} (high : 9999 < year) (long : 4 ≤ ds.length)
      (spells : Spells year.natAbs ds) : SpellsYear year ('+' :: ds)

/-- The one form in which a date stands in the query. -/
structure Canonical (date : Date) (text : List Char) : Prop where
  parts : ∃ year month day, SpellsYear date.year year ∧
    (month.length = 2 ∧ Spells date.month month) ∧ (day.length = 2 ∧ Spells date.day day) ∧
    text = year ++ '-' :: (month ++ '-' :: (day ++ "T00:00:00Z".toList))

section Canonical

variable {f : Filter} {date : Date} {text : List Char} {year : Int} {n width : Nat} {value : String}

theorem spells_padded (width n : Nat) : Spells n (Text.padded width n) :=
  ⟨fun _ => Text.isDigit_of_mem_padded, Text.ofDigits_padded width n⟩

theorem le_length_padded (width n : Nat) : width ≤ (Text.padded width n).length := by
  rw [Text.padded, List.length_append, List.length_replicate]
  omega

theorem spellsYear_yearText (year : Int) : SpellsYear year (Date.yearText year) := by
  rw [Date.yearText]
  split_ifs with within negative
  · exact .four within (Text.length_padded (by omega) (by omega)) (spells_padded 4 _)
  · exact .before negative (le_length_padded 4 _) (spells_padded 4 _)
  · exact .after (by omega) (le_length_padded 4 _) (spells_padded 4 _)

theorem SpellsYear.chars (spells : SpellsYear year text) :
    ∀ c ∈ text, c.isDigit = true ∨ c ∈ ['+', '-', ':', 'T', 'Z'] := by
  intro c member
  cases spells with
  | four _ _ spells => exact .inl (spells.digits c member)
  | before _ _ spells | after _ _ spells =>
      rcases List.mem_cons.mp member with rfl | later
      · exact .inr (by simp)
      · exact .inl (spells.digits c later)

theorem Canonical.chars (canonical : Canonical date text) :
    ∀ c ∈ text, c.isDigit = true ∨ c ∈ ['+', '-', ':', 'T', 'Z'] := by
  obtain ⟨year, month, day, years, ⟨-, months⟩, ⟨-, days⟩, rfl⟩ := canonical.parts
  have clock : ∀ c ∈ "T00:00:00Z".toList, c.isDigit = true ∨ c ∈ ['+', '-', ':', 'T', 'Z'] := by
    simp
  intro c member
  simp only [List.mem_append, List.mem_cons] at member
  rcases member with among | rfl | among | rfl | among | among
  · exact years.chars c among
  · exact .inr (by simp)
  · exact .inl (months.digits c among)
  · exact .inr (by simp)
  · exact .inl (days.digits c among)
  · exact clock c among

theorem canonical_midnight (valid : date.Valid) : Canonical date (midnight date).toList := by
  obtain ⟨-, -, monthPos, monthLe, dayPos, dayLe⟩ := valid
  have days : date.day ≤ 31 := by
    rw [Calendar.daysInMonth] at dayLe
    split_ifs at dayLe <;> omega
  refine ⟨Date.yearText date.year, Text.padded 2 date.month, Text.padded 2 date.day,
    spellsYear_yearText date.year, ⟨?_, spells_padded 2 _⟩, ⟨?_, spells_padded 2 _⟩, ?_⟩
  · exact Text.length_padded (by omega) (by omega)
  · exact Text.length_padded (by omega) (by omega)
  · simp [midnight, Date.render]

/-- Midnight is an instant of its own day, and its form is the one with an offset. -/
theorem read?_midnight (written : Written date) : Calendar.read? (midnight date) = some date := by
  have spells : (Spelling.shifted date ⟨0, 0, 0⟩ .universal).Spells (midnight date) := by
    have clock : Calendar.OnClock ⟨0, 0, 0⟩ := ⟨Nat.zero_le _, Nat.zero_le _, Nat.zero_le _⟩
    refine ⟨⟨written, clock, trivial⟩, [], [], by simp, by simp, ?_⟩
    apply String.toList_injective
    simp [midnight, Spelling.render, Calendar.Time.render, Calendar.pairText, Text.padded,
      Text.decimal, Calendar.Offset.render]
  have day := Spelling.ofDayNumber?_of_within written.valid (Nat.zero_le 23) (Nat.zero_le 59)
    (Nat.zero_le 59)
  rw [spells.read?_eq, Spelling.universalDay?, Spelling.instant, Calendar.Offset.seconds,
    Int.sub_zero, day]

theorem writtenValue_of_date (dated : f.kind = .date) (value : String) :
    writtenValue f = .ok value ↔
      ∃ date, Calendar.read? f.value = some date ∧ value = midnight date := by
  cases read : Calendar.read? f.value with
  | none => simp [writtenValue, dated, read]
  | some date => simp [writtenValue, dated, read, eq_comm]

/-- A date filter puts a date of the calendar into the query, in the one form for it. In the years
from 0 to 9999 a filter with that text as its value is written in the same way. -/
theorem date_written_canonically (dated : f.kind = .date) (written : writtenValue f = .ok value) :
    ∃ date, Calendar.read? f.value = some date ∧ date.Valid ∧ Canonical date value.toList ∧
      (∀ c ∈ value.toList, c.isDigit = true ∨ c ∈ ['+', '-', ':', 'T', 'Z']) ∧
      (0 ≤ date.year → date.year ≤ 9999 → ∀ g : Filter, g.kind = .date → g.value = value →
        writtenValue g = .ok value) := by
  obtain ⟨date, read, rfl⟩ := (writtenValue_of_date dated value).mp written
  have valid := Calendar.valid_of_read? read
  have canonical := canonical_midnight valid
  refine ⟨date, read, valid, canonical, canonical.chars, ?_⟩
  intro low high g again same
  apply (writtenValue_of_date again _).mpr
  rw [same, read?_midnight ⟨low, high, valid.2.2⟩]
  exact ⟨date, rfl, rfl⟩

end Canonical

/-- A sign, a blank and numbers of one digit are gone when the date is written, and then it stays
as it is. -/
theorem loose_date_written_canonically :
    Canonical ⟨2020, 1, 3⟩ "2020-01-03T00:00:00Z".toList ∧
      writtenValue ⟨"1", "day", .date, none, "2020-01-03T00:00:00Z", none⟩ =
        .ok "2020-01-03T00:00:00Z" := by
  obtain ⟨date, read, -, canonical, -, again⟩ :=
    date_written_canonically (f := ⟨"1", "day", .date, none, " +2020-1- 3", none⟩) rfl (by rfl)
  obtain rfl : date = ⟨2020, 1, 3⟩ := by
    have same : Calendar.read? " +2020-1- 3" = some ⟨2020, 1, 3⟩ := by rfl
    exact Option.some.inj (read.symm.trans same)
  exact ⟨canonical, again (by decide) (by decide) _ rfl rfl⟩

end IndexExport.Filter
