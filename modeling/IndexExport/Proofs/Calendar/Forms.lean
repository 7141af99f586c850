import IndexExport.Proofs.Calendar.Spelling
import Mathlib.Data.List.DropRight
import Mathlib.Data.List.Perm.Basic
/-!
# One form for each text

The six forms of a date overlap in how they begin, but no text has two of them. What stands behind
the day tells them apart: nothing, the letter before the time, or the time itself, and behind the
time nothing or an offset. So it does not matter in which order the forms are tried.
-/
set_option autoImplicit false

namespace IndexExport.Calendar

inductive Form where
  | day
  | instant
  | toSecond
  | toMinute
  | spaced
  | milliseconds
  deriving DecidableEq, Repr

/-- The reader of the texts of a form. -/
def Form.reader : Form → List Char → Option Date
  | .day => readDay?
  | .instant => readInstant?
  | .toSecond => readSeconds?
  | .toMinute => readMinutes?
  | .spaced => readSpaced?
  | .milliseconds => readMilliseconds?

/-- The one form that a text can have. A text that begins with no date can only be a number. -/
def formOf (cs : List Char) : Form :=
  match looseDate? cs with
  | none => .milliseconds
  | some (_, []) => .day
  | some (_, c :: rest) =>
    match looseTime? (if c = 'T' ∨ c = 't' then rest else c :: rest) with
    | none => .toMinute
    | some (_, []) => if c = 'T' then .toSecond else .spaced
    | some (_, _ :: _) => .instant

/-! ## Pieces of the strict form are pieces of the loose ones -/

section Pieces

variable {cs rest left : List Char} {c : Char} {d date : Date} {t : Time} {n width : Nat}

theorem eq_cons_of_literal? (read : literal? c cs = some rest) : cs = c :: rest := by
  cases cs with
  | nil => simp [literal?] at read
  | cons first more =>
      simp only [literal?] at read
      split at read
      · next same =>
        cases read
        rw [same]
      · cases read

theorem digits?_of_exactDigits? (some : 0 < width) (read : exactDigits? width cs = .some (n, rest)) :
    digits? width cs = .some (n, rest) := by
  simp only [exactDigits?] at read
  split at read
  · next long =>
    have notEmpty : (cs.take width).takeWhile Char.isDigit ≠ [] :=
      List.ne_nil_of_length_pos (by omega)
    simp only [digits?, if_neg notEmpty, long]
    exact read
  · cases read

theorem isDigit_of_digits? (read : digits? width cs = some (n, rest)) :
    ∃ c more, cs = c :: more ∧ c.isDigit = true := by
  cases cs with
  | nil => simp [digits?] at read
  | cons c more =>
      refine ⟨c, more, rfl, ?_⟩
      by_contra other
      cases width <;> simp [digits?, other] at read

theorem item?_of_exactDigits? (read : exactDigits? 2 cs = some (n, rest)) :
    item? cs = some (n, rest) := by
  have loose := digits?_of_exactDigits? (by omega) read
  obtain ⟨c, more, rfl, digit⟩ := isDigit_of_digits? loose
  rw [item?, Text.trimStart_of_isDigit digit, loose]

theorem year?_of_exactDigits? (read : exactDigits? 4 cs = some (n, rest)) :
    year? cs = some ((n : Int), rest) := by
  have loose := digits?_of_exactDigits? (by omega) read
  obtain ⟨c, more, rfl, digit⟩ := isDigit_of_digits? loose
  rw [year?, Text.trimStart_of_isDigit digit]
  split
  · next same =>
    cases same
    cases digit
  · next same =>
    cases same
    cases digit
  · rw [loose]
    rfl

/-! ## What a time begins and ends with -/

theorem looseTime?_trimStart (cs : List Char) : looseTime? (Text.trimStart cs) = looseTime? cs := by
  have start : item? (Text.trimStart cs) = item? cs := by
    simp only [item?, Text.trimStart, List.dropWhile_idempotent]
  simp only [looseTime?, looseMinutes?, start]

theorem looseTime?_of_letter (solid : Text.isBlank c = false) (letter : c.isDigit = false) :
    looseTime? (c :: rest) = none := by
  have nothing : item? (c :: rest) = none := by
    simp [item?, Text.trimStart, solid, digits?, letter]
  simp [looseTime?, looseMinutes?, nothing]

/-- The second is behind a colon. -/
theorem looseMinutes?_of_looseTime? (read : looseTime? cs = some (t, left)) :
    ∃ time more, looseMinutes? cs = some (time, ':' :: more) := by
  obtain ⟨⟨time, afterMinutes⟩, minutes, read⟩ := Option.bind_eq_some_iff.mp read
  obtain ⟨more, colon, -⟩ := Option.bind_eq_some_iff.mp read
  rw [eq_cons_of_literal? colon] at minutes
  exact ⟨time, more, minutes⟩

theorem looseTime?_of_minutes (read : looseMinutes? cs = some (t, [])) : looseTime? cs = none := by
  cases found : looseTime? cs with
  | none => rfl
  | some pair =>
      obtain ⟨time, more, other⟩ := looseMinutes?_of_looseTime? found
      simp [read] at other

theorem finish?_eq_some (read : finish? date (t, left) = some d) : left = [] ∧ d = date := by
  cases left with
  | nil =>
      simp only [finish?] at read
      split at read
      · cases read
        exact ⟨rfl, rfl⟩
      · cases read
  | cons c left => simp [finish?] at read

theorem separator?_eq_some (read : separator? cs = some rest) :
    ∃ c, cs = c :: rest ∧ (c = 'T' ∨ c = 't' ∨ c = ' ') := by
  cases cs with
  | nil => simp [separator?] at read
  | cons c more =>
      simp only [separator?] at read
      split at read
      · next separates =>
        cases read
        exact ⟨c, rfl, separates⟩
      · cases read

/-- Behind the date of the strict form there is a time, and behind the time an offset. -/
theorem instantOn?_eq_some {dated : Option Date} (read : instantOn? dated cs = some d) :
    ∃ date c rest time offset shift, dated = some date ∧ cs = c :: rest ∧
      (c = 'T' ∨ c = 't' ∨ c = ' ') ∧ looseTime? rest = some (time, offset) ∧ offset ≠ [] ∧
      universalDay? date time shift = some d := by
  obtain ⟨rest, separated, read⟩ := Option.bind_eq_some_iff.mp read
  obtain ⟨⟨hour, afterHour⟩, hour2, read⟩ := Option.bind_eq_some_iff.mp read
  obtain ⟨behindHour, colon, read⟩ := Option.bind_eq_some_iff.mp read
  obtain ⟨⟨minute, afterMinute⟩, minute2, read⟩ := Option.bind_eq_some_iff.mp read
  obtain ⟨behindMinute, again, read⟩ := Option.bind_eq_some_iff.mp read
  obtain ⟨⟨second, afterSecond⟩, second2, read⟩ := Option.bind_eq_some_iff.mp read
  obtain ⟨offset, solid, read⟩ := Option.bind_eq_some_iff.mp read
  obtain ⟨⟨shift, left⟩, shifted, read⟩ := Option.bind_eq_some_iff.mp read
  obtain ⟨date, found, ended⟩ := Option.bind_eq_some_iff.mp read
  obtain ⟨c, rfl, separates⟩ := separator?_eq_some separated
  refine ⟨date, c, rest, ⟨hour, minute, second⟩, offset, shift, found, rfl, separates, ?_, ?_, ?_⟩
  · have minutes : looseMinutes? rest = some (⟨hour, minute, 0⟩, afterMinute) := by
      simp [looseMinutes?, item?_of_exactDigits? hour2, colon, item?_of_exactDigits? minute2]
    simp [looseTime?, minutes, again, item?_of_exactDigits? second2, solid]
  · rintro rfl
    simp [offset?] at shifted
  · exact (Option.ite_none_right_eq_some.mp ended).2

/-- A text of the strict form begins like one of the loose forms. -/
theorem readInstant?_eq_some (read : readInstant? cs = some d) :
    ∃ date c rest time offset shift, looseDate? cs = some (date, c :: rest) ∧
      (c = 'T' ∨ c = 't' ∨ c = ' ') ∧ looseTime? rest = some (time, offset) ∧ offset ≠ [] ∧
      universalDay? date time shift = some d := by
  obtain ⟨⟨year, afterYear⟩, year4, read⟩ := Option.bind_eq_some_iff.mp read
  obtain ⟨behindYear, hyphen, read⟩ := Option.bind_eq_some_iff.mp read
  obtain ⟨⟨month, afterMonth⟩, month2, read⟩ := Option.bind_eq_some_iff.mp read
  obtain ⟨behindMonth, again, read⟩ := Option.bind_eq_some_iff.mp read
  obtain ⟨⟨day, afterDay⟩, day2, read⟩ := Option.bind_eq_some_iff.mp read
  change instantOn? (Date.of? (year : Int) month day) afterDay = some d at read
  obtain ⟨date, c, rest, time, offset, shift, found, rfl, behind⟩ := instantOn?_eq_some read
  refine ⟨date, c, rest, time, offset, shift, ?_, behind⟩
  simp [looseDate?, year?_of_exactDigits? year4, hyphen, item?_of_exactDigits? month2, again,
    item?_of_exactDigits? day2, found]

/-! ## What the loose forms read -/

theorem readDay?_eq_some (read : readDay? cs = some d) : looseDate? cs = some (d, []) := by
  rw [readDay?] at read
  split at read
  · next dated =>
    cases read
    exact dated
  · cases read

theorem readSeconds?_eq_some (read : readSeconds? cs = some d) :
    ∃ rest time, looseDate? cs = some (d, 'T' :: rest) ∧ looseTime? rest = some (time, []) := by
  obtain ⟨⟨date, behind⟩, dated, read⟩ := Option.bind_eq_some_iff.mp read
  obtain ⟨rest, letter, read⟩ := Option.bind_eq_some_iff.mp read
  obtain ⟨⟨time, left⟩, clock, read⟩ := Option.bind_eq_some_iff.mp read
  obtain ⟨rfl, rfl⟩ := finish?_eq_some read
  rw [eq_cons_of_literal? letter] at dated
  exact ⟨rest, time, dated, clock⟩

theorem readMinutes?_eq_some (read : readMinutes? cs = some d) :
    ∃ rest time, looseDate? cs = some (d, 'T' :: rest) ∧ looseMinutes? rest = some (time, []) := by
  obtain ⟨⟨date, behind⟩, dated, read⟩ := Option.bind_eq_some_iff.mp read
  obtain ⟨rest, letter, read⟩ := Option.bind_eq_some_iff.mp read
  obtain ⟨⟨time, left⟩, clock, read⟩ := Option.bind_eq_some_iff.mp read
  obtain ⟨rfl, rfl⟩ := finish?_eq_some read
  rw [eq_cons_of_literal? letter] at dated
  exact ⟨rest, time, dated, clock⟩

theorem readSpaced?_eq_some (read : readSpaced? cs = some d) :
    ∃ behind time, looseDate? cs = some (d, behind) ∧ looseTime? behind = some (time, []) := by
  obtain ⟨⟨date, behind⟩, dated, read⟩ := Option.bind_eq_some_iff.mp read
  obtain ⟨⟨time, left⟩, clock, read⟩ := Option.bind_eq_some_iff.mp read
  obtain ⟨rfl, rfl⟩ := finish?_eq_some read
  rw [looseTime?_trimStart] at clock
  exact ⟨behind, time, dated, clock⟩

end Pieces

/-! ## The form of a text -/

section Forms

variable {cs rest left : List Char} {c : Char} {d date : Date} {t : Time}

theorem formOf_of_time (dated : looseDate? cs = some (date, c :: rest))
    (clock : looseTime? (if c = 'T' ∨ c = 't' then rest else c :: rest) = some (t, left)) :
    formOf cs = if left = [] then (if c = 'T' then .toSecond else .spaced) else .instant := by
  rw [formOf, dated]
  dsimp only
  rw [clock]
  cases left <;> simp

theorem formOf_of_readDay? (read : readDay? cs = some d) : formOf cs = .day := by
  rw [formOf, readDay?_eq_some read]

theorem formOf_of_readInstant? (read : readInstant? cs = some d) : formOf cs = .instant := by
  obtain ⟨date, c, rest, time, offset, -, dated, separates, clock, more, -⟩ :=
    readInstant?_eq_some read
  have behind : looseTime? (if c = 'T' ∨ c = 't' then rest else c :: rest) =
      some (time, offset) := by
    split
    · exact clock
    · next noLetter =>
      obtain rfl : c = ' ' := by simpa [not_or.mp noLetter] using separates
      -- the space is one of the blanks that the loose form passes over
      have start : Text.trimStart (' ' :: rest) = Text.trimStart rest := by
        simp [Text.trimStart, Text.isBlank]
      rw [← looseTime?_trimStart, start, looseTime?_trimStart, clock]
  rw [formOf_of_time dated behind, if_neg more]

theorem formOf_of_readSeconds? (read : readSeconds? cs = some d) : formOf cs = .toSecond := by
  obtain ⟨rest, time, dated, clock⟩ := readSeconds?_eq_some read
  rw [formOf_of_time dated (by simpa using clock), if_pos rfl, if_pos rfl]

theorem formOf_of_readMinutes? (read : readMinutes? cs = some d) : formOf cs = .toMinute := by
  obtain ⟨rest, time, dated, clock⟩ := readMinutes?_eq_some read
  simp [formOf, dated, looseTime?_of_minutes clock]

theorem formOf_of_readSpaced? (read : readSpaced? cs = some d) : formOf cs = .spaced := by
  obtain ⟨behind, time, dated, clock⟩ := readSpaced?_eq_some read
  cases behind with
  | nil => cases clock
  | cons c rest =>
      have noLetter : ¬(c = 'T' ∨ c = 't') := by
        rintro (rfl | rfl)
        · rw [looseTime?_of_letter (by decide) (by decide)] at clock
          cases clock
        · rw [looseTime?_of_letter (by decide) (by decide)] at clock
          cases clock
      rw [formOf_of_time dated (by rw [if_neg noLetter, clock]), if_pos rfl,
        if_neg fun same => noLetter (.inl same)]

theorem formOf_of_readMilliseconds? (read : readMilliseconds? cs = some d) :
    formOf cs = .milliseconds := by
  obtain ⟨count, number, -⟩ := Option.bind_eq_some_iff.mp read
  rw [formOf, looseDate?_of_integer? number]

theorem formOf_of_reader (form : Form) (read : form.reader cs = some d) : formOf cs = form := by
  cases form with
  | day => exact formOf_of_readDay? read
  | instant => exact formOf_of_readInstant? read
  | toSecond => exact formOf_of_readSeconds? read
  | toMinute => exact formOf_of_readMinutes? read
  | spaced => exact formOf_of_readSpaced? read
  | milliseconds => exact formOf_of_readMilliseconds? read

theorem reader_eq_none_or {form other : Form} (differ : form ≠ other) (cs : List Char) :
    form.reader cs = none ∨ other.reader cs = none := by
  cases first : form.reader cs with
  | none => exact .inl rfl
  | some d =>
      cases second : other.reader cs with
      | none => exact .inr rfl
      | some e =>
          have same := (formOf_of_reader form first).symm.trans (formOf_of_reader other second)
          exact absurd same differ

end Forms

/-! ## The dates that are read -/

section Valid

variable {cs rest : List Char} {d date : Date}

theorem valid_of_of? {year : Int} {month day : Nat} (found : Date.of? year month day = some d) :
    d.Valid := by
  simp only [Date.of?] at found
  split at found
  · next valid =>
    cases found
    exact valid
  · cases found

theorem valid_of_looseDate? (read : looseDate? cs = some (d, rest)) : d.Valid := by
  obtain ⟨year, -, read⟩ := Option.bind_eq_some_iff.mp read
  obtain ⟨_, -, read⟩ := Option.bind_eq_some_iff.mp read
  obtain ⟨month, -, read⟩ := Option.bind_eq_some_iff.mp read
  obtain ⟨_, -, read⟩ := Option.bind_eq_some_iff.mp read
  obtain ⟨day, -, read⟩ := Option.bind_eq_some_iff.mp read
  obtain ⟨date, found, same⟩ := Option.bind_eq_some_iff.mp read
  cases same
  exact valid_of_of? found

theorem valid_of_ofDayNumber? {n : Int} (found : Date.ofDayNumber? n = some d) : d.Valid :=
  (Date.ofDayNumber?_eq_some_iff.mp found).1

theorem valid_of_reader (form : Form) (read : form.reader cs = some d) : d.Valid := by
  cases form with
  | day => exact valid_of_looseDate? (readDay?_eq_some read)
  | instant =>
      obtain ⟨_, _, _, _, _, _, -, -, -, -, found⟩ := readInstant?_eq_some read
      exact valid_of_ofDayNumber? found
  | toSecond =>
      obtain ⟨rest, time, dated, -⟩ := readSeconds?_eq_some read
      exact valid_of_looseDate? dated
  | toMinute =>
      obtain ⟨rest, time, dated, -⟩ := readMinutes?_eq_some read
      exact valid_of_looseDate? dated
  | spaced =>
      obtain ⟨behind, time, dated, -⟩ := readSpaced?_eq_some read
      exact valid_of_looseDate? dated
  | milliseconds =>
      obtain ⟨count, -, read⟩ := Option.bind_eq_some_iff.mp read
      split at read
      · exact valid_of_ofDayNumber? read
      · cases read

/-- What is read is a date of the calendar. -/
theorem valid_of_read? {text : String} (read : read? text = some d) : d.Valid := by
  obtain ⟨reader, among, read⟩ := List.exists_of_findSome?_eq_some read
  simp only [readers, List.mem_cons, List.not_mem_nil, or_false] at among
  rcases among with rfl | rfl | rfl | rfl | rfl | rfl
  · exact valid_of_reader .day read
  · exact valid_of_reader .instant read
  · exact valid_of_reader .toSecond read
  · exact valid_of_reader .toMinute read
  · exact valid_of_reader .spaced read
  · exact valid_of_reader .milliseconds read

end Valid

/-! ## The order of the readers -/

theorem findSome?_perm {α β : Type} {f : α → Option β} {xs ys : List α} (order : xs.Perm ys)
    (single : xs.Pairwise fun x y => f x = none ∨ f y = none) :
    xs.findSome? f = ys.findSome? f := by
  induction order with
  | nil => rfl
  | cons x _ ih => rw [List.findSome?_cons, List.findSome?_cons, ih single.of_cons]
  | swap x y rest =>
      have fits := (List.pairwise_cons.mp single).1 x List.mem_cons_self
      rcases fits with none | none
      · simp [List.findSome?_cons, none]
      · simp [List.findSome?_cons, none]
  | trans first _ ih later =>
      have symmetric : ∀ {x y}, f x = none ∨ f y = none → f y = none ∨ f x = none := Or.symm
      exact (ih single).trans (later (single.perm first symmetric))

/-- No text is read in two of the six forms, and so every order of the readers gives the same
date, or none. -/
theorem readers_in_any_order :
    (∀ cs, readers.Pairwise fun first second => first cs = none ∨ second cs = none) ∧
    ∀ order : List (List Char → Option Date), order.Perm readers → ∀ text : String,
      order.findSome? (fun reader => reader (Text.trim text.toList)) = read? text := by
  have single : ∀ cs, readers.Pairwise fun first second => first cs = none ∨ second cs = none := by
    intro cs
    have named : readers = List.map Form.reader
        [.day, .instant, .toSecond, .toMinute, .spaced, .milliseconds] := rfl
    have distinct : List.Pairwise (fun form other : Form => form ≠ other)
        [.day, .instant, .toSecond, .toMinute, .spaced, .milliseconds] := by decide
    rw [named, List.pairwise_map]
    exact distinct.imp fun differ => reader_eq_none_or differ cs
  refine ⟨single, ?_⟩
  intro order perm text
  exact (findSome?_perm perm.symm (single _)).symm

/-- A timestamp with short numbers and with blanks around it, which the fifth form fits. -/
theorem read_backwards : readers.reverse.Perm readers ∧
    readers.reverse.findSome? (fun reader => reader (Text.trim " 2020-1-3 1:2:3.5 ".toList)) =
      some ⟨2020, 1, 3⟩ := by
  refine ⟨readers.reverse_perm, ?_⟩
  rw [readers_in_any_order.2 _ readers.reverse_perm]
  decide

end IndexExport.Calendar
