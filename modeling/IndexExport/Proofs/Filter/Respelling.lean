import IndexExport.Proofs.Calendar.Spelling
import IndexExport.Proofs.Filter.Modes
import IndexExport.Proofs.Filter.Nesting
/-!
# Dates by any spelling

The query depends on a date only through the day that it is read as. So when dates of a list are
written in other ways, each for the same instant, the list is compiled to the same query, in
either mode. More generally a filter may be replaced by one that stands in for it: with the same
identifier, kind and join, a parenthesis where it is one, and the same fragment.
-/
set_option autoImplicit false

namespace IndexExport.Filter

/-! ## Filters that stand in for others -/

/-- Nothing in the query tells the filters apart. -/
structure StandsIn (f g : Filter) : Prop where
  id : f.id = g.id
  kind : f.kind = g.kind
  join : f.join = g.join
  opens : f.value = "(" ↔ g.value = "("
  closes : f.value = ")" ↔ g.value = ")"
  fragment : (fragment f).toOption = (fragment g).toOption

section StandsIn

variable {f g p q : Filter} {filters others rest more openers owners : List Filter}

theorem StandsIn.opensGroup_eq (same : StandsIn f g) : f.opensGroup = g.opensGroup := by
  simp only [opensGroup, same.kind, same.opens]

theorem StandsIn.closesGroup_eq (same : StandsIn f g) : f.closesGroup = g.closesGroup := by
  simp only [closesGroup, same.kind, same.closes]

/-! ### Structured mode -/

theorem StandsIn.fragmentOrFail_eq (same : StandsIn f g) :
    (fragmentOrFail f).toOption = (fragmentOrFail g).toOption := by
  have found := same.fragment
  rw [fragmentOrFail, fragmentOrFail]
  cases first : Filter.fragment f with
  | error e =>
      cases second : Filter.fragment g with
      | error e => rfl
      | ok piece =>
          rw [first, second] at found
          cases found
  | ok piece =>
      cases second : Filter.fragment g with
      | error e =>
          rw [first, second] at found
          cases found
      | ok other =>
          rw [first, second] at found
          cases found
          cases piece <;> rfl

theorem StandsIn.token_eq (same : StandsIn f g) : (token f).toOption = (token g).toOption := by
  rw [token, token, same.opensGroup_eq, same.closesGroup_eq]
  split_ifs
  · rfl
  · rfl
  · exact same.fragmentOrFail_eq

theorem followedBy_congr {first second next after : Except Failure String}
    (same : first.toOption = second.toOption) (then_same : next.toOption = after.toOption) :
    (followedBy first next).toOption = (followedBy second after).toOption := by
  cases first <;> cases second <;> cases same
  · rfl
  · cases next <;> cases after <;> cases then_same <;> rfl

theorem StandsIn.scanJoin_eq {previous before : Option Filter} (same : StandsIn f g)
    (around : previous.map opensGroup = before.map opensGroup) :
    scanJoin previous f = scanJoin before g := by
  cases previous with
  | none =>
      cases before with
      | none => rfl
      | some q => cases around
  | some p =>
      cases before with
      | none => cases around
      | some q =>
          have opens : p.opensGroup = q.opensGroup := Option.some.inj around
          rw [scanJoin, scanJoin, joinEmitted, joinEmitted, opens, same.closesGroup_eq, same.id,
            same.join]

theorem scanFrom_congr {previous before : Option Filter}
    (around : previous.map opensGroup = before.map opensGroup)
    (same : List.Forall₂ StandsIn filters others) :
    (scanFrom previous filters).toOption = (scanFrom before others).toOption := by
  induction same generalizing previous before with
  | nil => rfl
  | cons first _ ih =>
      rw [scanFrom_cons, scanFrom_cons, first.scanJoin_eq around]
      exact followedBy_congr rfl (followedBy_congr first.token_eq
        (ih (by rw [Option.map_some, Option.map_some, first.opensGroup_eq])))

theorem faultFrom_congr (level : openers.length = owners.length)
    (same : List.Forall₂ StandsIn filters others) :
    (faultFrom openers filters).isSome = (faultFrom owners others).isSome := by
  -- the filters that opened the groups may differ, but as many groups are open in both lists
  induction same generalizing openers owners with
  | nil =>
      cases openers <;> cases owners
      · rfl
      · cases level
      · cases level
      · rfl
  | cons first _ ih =>
      rw [faultFrom_cons, faultFrom_cons, first.kind, first.opensGroup_eq, first.closesGroup_eq]
      split_ifs with plain opens closes
      · exact ih level
      · exact ih (by rw [List.length_cons, List.length_cons, level])
      · cases openers <;> cases owners
        · rfl
        · cases level
        · cases level
        · exact ih (Nat.succ.inj level)
      · rfl

theorem compile_structured_congr (same : List.Forall₂ StandsIn filters others) :
    (compile .structured filters).toOption = (compile .structured others).toOption := by
  have faults : (firstFault filters).isSome = (firstFault others).isSome :=
    faultFrom_congr rfl same
  cases first : build filters with
  | error e =>
      rw [(firstFault_eq_some_iff filters e).mpr first] at faults
      obtain ⟨e', second⟩ := Option.isSome_iff_exists.mp faults.symm
      rw [compile_structured_of_fault first,
        compile_structured_of_fault ((firstFault_eq_some_iff others e').mp second)]
      rfl
  | ok tree =>
      cases second : build others with
      | error e =>
          rw [(firstFault_eq_some_iff others e).mpr second] at faults
          obtain ⟨e', fault⟩ := Option.isSome_iff_exists.mp faults
          rw [(firstFault_eq_some_iff filters e').mp fault] at first
          cases first
      | ok other =>
          rw [compile_structured_of_build first, compile_structured_of_build second]
          exact scanFrom_congr rfl same

/-! ### Legacy mode -/

theorem idBefore_congr (id : String) (around : p.id = q.id)
    (same : List.Forall₂ StandsIn filters others) :
    idBefore id p filters = idBefore id q others := by
  induction same generalizing p q with
  | nil => rfl
  | cons first _ ih => rw [idBefore, idBefore, around, first.id, ih first.id]

theorem firstParenthesis_congr (before id : String)
    (same : List.Forall₂ StandsIn filters others) :
    firstParenthesis before id filters = firstParenthesis before id others := by
  induction same with
  | nil => rfl
  | cons first _ ih =>
      simp only [firstParenthesis, first.id, first.kind, first.opens, first.closes, ih]

theorem positional_congr (id : String) (same : List.Forall₂ StandsIn filters others) :
    positional filters id = positional others id := by
  have found := fun before => firstParenthesis_congr before id same
  cases same with
  | nil => rfl
  | cons first same =>
      have named := idBefore_congr id first.id same
      cases same with
      | nil => rfl
      | cons second same => rw [positional, positional, found, named, second.id]

theorem legacyFrom_congr (whole : List.Forall₂ StandsIn filters others) (isFirst : Bool)
    (same : List.Forall₂ StandsIn rest more) :
    (legacyFrom filters isFirst rest).1.toOption = (legacyFrom others isFirst more).1.toOption := by
  induction same generalizing isFirst with
  | nil => rfl
  | @cons f g rest more first _ ih =>
      have joined : (legacyJoin filters isFirst f).1 = (legacyJoin others isFirst g).1 := by
        rw [legacyJoin, legacyJoin, first.id, first.join, positional_congr g.id whole]
      have later := ih false
      have found := first.fragment
      rw [legacyFrom_cons, legacyFrom_cons, joined]
      cases piece : Filter.fragment f <;> cases other : Filter.fragment g <;>
        rw [piece, other] at found <;> cases found
      · rfl
      · cases tail : (legacyFrom filters false rest).1 <;>
          cases behind : (legacyFrom others false more).1 <;>
          rw [tail, behind] at later <;> cases later <;> rfl

/-- A list in which filters stand in for others is compiled to the same query. -/
theorem compile_congr (mode : Mode) (same : List.Forall₂ StandsIn filters others) :
    (compile mode filters).toOption = (compile mode others).toOption := by
  cases mode with
  | structured => exact compile_structured_congr same
  | legacy => exact legacyFrom_congr same true same

end StandsIn

/-! ## Dates in other spellings -/

open Calendar (Date Offset OnClock Spelling Time Written)

/-- The filters differ at most in how a date is spelled. -/
inductive Respells : Filter → Filter → Prop where
  | same (f : Filter) : Respells f f
  | date {f : Filter} {value : String} {spelling other : Spelling} (kind : f.kind = .date)
      (spells : spelling.Spells f.value) (respells : other.Spells value)
      (instant : spelling.instant = other.instant) : Respells f { f with value := value }

section Respells

variable {f g : Filter} {spelling : Spelling} {text : String}

theorem ne_parenthesis_of_spells (spells : spelling.Spells text) : text ≠ "(" ∧ text ≠ ")" := by
  have kinds := spells.date_or_number
  constructor
  · rintro rfl
    exact kinds.elim (fun dated => dated (by decide)) fun number => number (by decide)
  · rintro rfl
    exact kinds.elim (fun dated => dated (by decide)) fun number => number (by decide)

theorem fragment_of_date (kind : f.kind = .date) (value : String)
    (same : Calendar.read? f.value = Calendar.read? value) :
    (fragment f).toOption = (fragment { f with value := value }).toOption := by
  simp only [fragment, writtenValue, kind, same]
  cases Calendar.read? value with
  | none => rfl
  | some day =>
      simp only [Except.map, fragmentWith, kind]

theorem Respells.standsIn (respells : Respells f g) : StandsIn f g := by
  cases respells with
  | same => exact ⟨rfl, rfl, rfl, Iff.rfl, Iff.rfl, rfl⟩
  | @date value spelling other kind spells respells instant =>
      have day : Calendar.read? f.value = Calendar.read? value := by
        rw [spells.read?_eq, respells.read?_eq, Spelling.universalDay?, Spelling.universalDay?,
          instant]
      obtain ⟨notOpen, notClosed⟩ := ne_parenthesis_of_spells spells
      obtain ⟨neverOpen, neverClosed⟩ := ne_parenthesis_of_spells respells
      exact ⟨rfl, rfl, rfl, ⟨fun is => absurd is notOpen, fun is => absurd is neverOpen⟩,
        ⟨fun is => absurd is notClosed, fun is => absurd is neverClosed⟩,
        fragment_of_date kind value day⟩

/-- Day numbers count the days of the calendar from the first of January 1970. A spelling without
an offset is read as the day that it names, one with an offset as the day in universal time, and a
number as the day that many milliseconds later, if the calendar reaches so far. So a query does
not depend on how its instants are spelled. -/
theorem spellings_denote_universal_day :
    (Date.epoch.dayNumber = 0 ∧
      ∀ date : Date, date.Proper → date.next.Proper ∧ date.next.dayNumber = date.dayNumber + 1) ∧
    (∀ (spelling : Spelling) date text, spelling.named? = some date → spelling.Spells text →
      Calendar.read? text = some date) ∧
    (∀ (date : Date) (time : Time) (offset : Offset) text,
      (Spelling.shifted date time offset).Spells text →
      ∃ day, day.Valid ∧ Calendar.read? text = some day ∧
        day.dayNumber = (86400 * date.dayNumber +
          (3600 * time.hour + 60 * time.minute + time.second) - offset.seconds) / 86400) ∧
    (∀ count text, (Spelling.milliseconds count).Spells text →
      (∀ day, Calendar.read? text = some day ↔ day.Valid ∧ day.dayNumber = count / 86400000) ∧
      ((∃ day, Calendar.read? text = some day) ↔
        Date.firstDay.dayNumber ≤ count / 86400000 ∧
          count / 86400000 ≤ Date.lastDay.dayNumber)) ∧
    ∀ mode filters others, List.Forall₂ Respells filters others →
      ∀ query, compile mode filters = .ok query ↔ compile mode others = .ok query := by
  refine ⟨⟨rfl, fun date proper => ⟨proper.next, Date.dayNumber_next proper⟩⟩,
    fun spelling date text named spells => ?_, fun date time offset text spells => ?_,
    fun count text spells => ⟨fun day => ?_, ?_⟩, fun mode filters others same query => ?_⟩
  · rw [spells.read?_eq, Spelling.universalDay?_of_named spells.1 named]
  · obtain ⟨day, found⟩ := Spelling.exists_universalDay?_of_offset spells.1
    obtain ⟨valid, number⟩ := Date.ofDayNumber?_eq_some_iff.mp found
    refine ⟨day, valid, by rw [spells.read?_eq, found], ?_⟩
    rw [number, Spelling.instant, Spelling.localSeconds]
    omega
  · rw [spells.read?_eq]
    exact Date.ofDayNumber?_eq_some_iff
  · rw [spells.read?_eq]
    exact Date.exists_ofDayNumber?_iff _
  · have whole := compile_congr mode (same.imp fun _ _ => Respells.standsIn)
    cases first : compile mode filters <;> cases second : compile mode others <;>
      rw [first, second] at whole <;> cases whole
    · simp
    · rfl

/-- The evening of a leap day west of Greenwich, and the same instant as a number. -/
theorem compile_respelled_day : ∀ mode,
    compile mode [⟨"1", "day", .date, some .equals, "\t1709253000000 ", none⟩] =
      .ok "day:\"2024-03-01T00:00:00Z\"" := by
  intro mode
  have spells : (Spelling.shifted ⟨2024, 2, 29⟩ ⟨23, 30, 0⟩ (.behind 1 0)).Spells
      "2024-02-29T23:30:00-01:00" := by
    refine ⟨⟨⟨by decide, by decide, by decide⟩, ⟨by decide, by decide, by decide⟩, ?_⟩,
      [], [], by simp, by simp, by rfl⟩
    exact ⟨by decide, by decide⟩
  have respells : (Spelling.milliseconds 1709253000000).Spells "\t1709253000000 " :=
    ⟨⟨by decide, by decide⟩, ['\t'], [' '], List.forall_mem_singleton.mpr rfl,
      List.forall_mem_singleton.mpr rfl, by rfl⟩
  have date : Respells ⟨"1", "day", .date, some .equals, "2024-02-29T23:30:00-01:00", none⟩
      ⟨"1", "day", .date, some .equals, "\t1709253000000 ", none⟩ :=
    .date rfl spells respells (by decide)
  refine (spellings_denote_universal_day.2.2.2.2 mode _ _ (.cons date .nil) _).mp ?_
  cases mode <;> rfl

end Respells

end IndexExport.Filter
