import IndexExport.Proofs.Filter.Modes
import IndexExport.Proofs.Filter.Nesting
/-!
# Legacy mode fails on dates alone

Legacy mode looks for the filter before another one by its place. `legacyByPlace` does the same
with every place checked: a number below zero, a place outside the list and a filter that is not
found are traps. It runs into none of them and gives what legacy mode gives.

So only a date that cannot be read stops legacy mode, and the first one in the list does. Where
structured mode stops at a date, it is the same one.
-/
set_option autoImplicit false

namespace IndexExport.Filter

/-! ## The search by places -/

/-- What can go wrong with a place. -/
inductive Trap where
  | belowZero
  | outside
  | notFound
  deriving DecidableEq, Repr

/-- The place that lies `steps` places before another one. -/
def placeBack (place steps : Nat) : Except Trap Nat :=
  if steps ≤ place then .ok (place - steps) else .error .belowZero

def filterAt (filters : List Filter) (place : Nat) : Except Trap Filter :=
  match filters[place]? with
  | some f => .ok f
  | none => .error .outside

/-- The place before the first filter called `id`, which is looked for behind the first place. -/
def placeBefore (filters : List Filter) (id : String) : Except Trap Nat :=
  match (filters.zipIdx.drop 1).find? fun numbered => numbered.1.id = id with
  | some (_, place) => placeBack place 1
  | none => .error .notFound

/-- `positional` by places. -/
def positionalByPlace (filters : List Filter) (id : String) : Except Trap Bool :=
  if filters.length ≤ 1 then .ok false
  else do
    let place ← placeBefore filters id
    let previous ← filterAt filters place
    return firstParenthesis previous.id id filters

def joinByPlace (filters : List Filter) (place : Nat) (f : Filter) : Except Trap String :=
  if place = 0 then .ok ""
  else do
    let silent ← positionalByPlace filters f.id
    return if silent then "" else joinText (f.join.getD .both)

def legacyByPlace (filters : List Filter) :
    List (Filter × Nat) → Except Trap (Except Failure String)
  | [] => .ok (.ok "")
  | (f, place) :: rest => do
    let join ← joinByPlace filters place f
    match fragment f with
    | .error e => return .error e
    | .ok piece =>
      let tail ← legacyByPlace filters rest
      return tail.map fun more => join ++ piece.getD "" ++ more

section Places

variable {filters before rest : List Filter} {f : Filter} {id : String}

/-- By induction on the filters in which the identifier is looked for; `passed` and `previous`
stand in front of them. -/
theorem find_of_mem (passed : List Filter) (previous : Filter) {tail : List Filter}
    (member : id ∈ tail.map Filter.id) :
    ∃ f place p,
      (tail.zipIdx (passed.length + 1)).find? (fun numbered => numbered.1.id = id) =
        some (f, place) ∧
      1 ≤ place ∧ (passed ++ previous :: tail)[place - 1]? = some p ∧
      idBefore id previous tail = some p.id := by
  induction tail generalizing passed previous with
  | nil => cases member
  | cons f tail ih =>
      by_cases here : f.id = id
      · refine ⟨f, passed.length + 1, previous, ?_, Nat.succ_pos _, ?_, ?_⟩
        · simp [List.zipIdx_cons, here]
        · simp
        · simp [idBefore, here]
      · have later : id ∈ tail.map Filter.id := by
          rcases List.mem_cons.mp member with same | later
          · exact absurd same.symm here
          · exact later
        obtain ⟨g, place, p, found, positive, there, before⟩ := ih (passed ++ [previous]) f later
        refine ⟨g, place, p, ?_, positive, ?_, ?_⟩
        · rw [List.length_append, List.length_singleton] at found
          simpa [List.zipIdx_cons, here] using found
        · simpa using there
        · rw [idBefore, if_neg here, before]

/-- The search by places comes to its end for every filter after the first. -/
theorem positionalByPlace_of_mem (first : Filter) (member : id ∈ rest.map Filter.id) :
    positionalByPlace (first :: rest) id = .ok (positional (first :: rest) id) := by
  obtain ⟨f, place, p, found, positive, there, before⟩ := find_of_mem [] first member
  have placed : placeBefore (first :: rest) id = .ok (place - 1) := by
    rw [List.length_nil] at found
    simp only [placeBefore, List.zipIdx_cons, List.drop_succ_cons, List.drop_zero, found]
    exact if_pos positive
  have held : filterAt (first :: rest) (place - 1) = .ok p := by
    rw [List.nil_append] at there
    rw [filterAt, there]
  cases rest with
  | nil => cases member
  | cons second rest =>
      have long : ¬(first :: second :: rest).length ≤ 1 := by simp
      rw [positionalByPlace, if_neg long, placed, positional, before]
      simp only [bind, Except.bind, held]
      rfl

theorem joinByPlace_eq (split : filters = before ++ f :: rest) :
    joinByPlace filters before.length f = .ok (legacyJoin filters before.isEmpty f).1 := by
  cases before with
  | nil => rfl
  | cons first before =>
      have member : f.id ∈ (before ++ f :: rest).map Filter.id := by simp
      have found := positionalByPlace_of_mem first member
      rw [← List.cons_append, ← split] at found
      have later : ¬(first :: before).length = 0 := by simp
      rw [joinByPlace, if_neg later, found, legacyJoin]
      cases positional filters f.id <;> rfl

/-- By induction on what is left of the list. -/
theorem legacyByPlace_eq (before : List Filter) (split : filters = before ++ rest) :
    legacyByPlace filters (rest.zipIdx before.length) =
      .ok (legacyFrom filters before.isEmpty rest).1 := by
  induction rest generalizing before with
  | nil => rfl
  | cons f rest ih =>
      have later := ih (before ++ [f]) (by rw [split, List.append_assoc, List.singleton_append])
      have notFirst : (before ++ [f]).isEmpty = false := by simp
      rw [List.length_append, List.length_singleton, notFirst] at later
      rw [List.zipIdx_cons, legacyByPlace, joinByPlace_eq split, legacyFrom_cons]
      cases fragment f with
      | error e => rfl
      | ok piece =>
          simp only [bind, Except.bind, later]
          rfl

end Places

/-! ## Dates -/

/-- A date that cannot be read. -/
def undated (f : Filter) : Bool :=
  f.kind = .date && (Calendar.read? f.value).isNone

section Dates

variable {filters rest : List Filter} {f : Filter} {e : Failure} {id value text : String}

theorem fragment_eq_error_iff :
    fragment f = .error e ↔ f.undated = true ∧ e = .invalidDate f.id f.value := by
  rw [fragment, writtenValue]
  cases kind : f.kind with
  | date =>
      cases read : Calendar.read? f.value with
      | none =>
          simp only [undated, kind, read, Except.map]
          exact ⟨fun failed => ⟨rfl, (Except.error.inj failed).symm⟩, fun same => by rw [same.2]⟩
      | some day => simp [undated, kind, read, Except.map]
  | text | combo | number | integer | grouping | other => simp [undated, kind, Except.map]

theorem undated_of_token (written : token f = .ok text) : f.undated = false := by
  cases unread : f.undated with
  | false => rfl
  | true =>
      have stopped := fragment_eq_error_iff.mpr ⟨unread, rfl⟩
      rw [fragment_of_token written] at stopped
      cases stopped

theorem legacyFrom_eq_error_iff (filters : List Filter) (isFirst : Bool) (rest : List Filter)
    (e : Failure) :
    (legacyFrom filters isFirst rest).1 = .error e ↔
      ∃ f, rest.find? undated = some f ∧ e = .invalidDate f.id f.value := by
  induction rest generalizing isFirst with
  | nil => simp [legacyFrom]
  | cons g rest ih =>
      rw [legacyFrom_cons, List.find?_cons]
      cases unread : g.undated with
      | true =>
          rw [fragment_eq_error_iff.mpr ⟨unread, rfl⟩]
          simp [eq_comm]
      | false =>
          cases written : fragment g with
          | error e' =>
              have read := (fragment_eq_error_iff.mp written).1
              rw [unread] at read
              cases read
          | ok piece =>
              rw [← ih false]
              cases (legacyFrom filters false rest).1 <;> simp [Except.map]

theorem compile_legacy_eq_error_iff (filters : List Filter) (e : Failure) :
    compile .legacy filters = .error e ↔
      ∃ f, filters.find? undated = some f ∧ e = .invalidDate f.id f.value :=
  legacyFrom_eq_error_iff filters true filters e

/-! ## Dates in structured mode -/

theorem followedBy_eq_error {first next : Except Failure String}
    (whole : followedBy first next = .error e) :
    first = .error e ∨ ∃ text, first = .ok text ∧ next = .error e := by
  cases first with
  | error e' => exact .inl whole
  | ok text =>
      cases next with
      | error e' => exact .inr ⟨text, rfl, whole⟩
      | ok more => cases whole

theorem scanJoin_ne_invalidDate {previous : Option Filter} :
    scanJoin previous f ≠ .error (.invalidDate id value) := by
  intro stopped
  cases previous with
  | none => cases stopped
  | some p =>
      rw [scanJoin] at stopped
      split_ifs at stopped
      rw [joinEmitted.eq_def] at stopped
      split at stopped <;> cases stopped

theorem undated_of_token_eq_error (stopped : token f = .error (.invalidDate id value)) :
    f.undated = true ∧ Failure.invalidDate id value = .invalidDate f.id f.value := by
  rw [token] at stopped
  split_ifs at stopped
  rw [fragmentOrFail] at stopped
  split at stopped
  · next failed =>
    rw [Except.error.inj stopped] at failed
    exact fragment_eq_error_iff.mp failed
  · cases stopped
  · cases stopped

/-- By induction on the list: all filters before the failure have been written. -/
theorem find_of_scanFrom {previous : Option Filter}
    (stopped : scanFrom previous rest = .error (.invalidDate id value)) :
    ∃ f, rest.find? undated = some f ∧ Failure.invalidDate id value = .invalidDate f.id f.value := by
  induction rest generalizing previous with
  | nil => cases stopped
  | cons g rest ih =>
      rw [scanFrom_cons] at stopped
      rcases followedBy_eq_error stopped with here | ⟨-, -, behind⟩
      · exact absurd here scanJoin_ne_invalidDate
      · rcases followedBy_eq_error behind with here | ⟨text, written, later⟩
        · obtain ⟨unread, same⟩ := undated_of_token_eq_error here
          exact ⟨g, List.find?_cons_of_pos unread, same⟩
        · obtain ⟨f, found, same⟩ := ih later
          have read := ne_true_of_eq_false (undated_of_token written)
          exact ⟨f, by rw [List.find?_cons_of_neg read, found], same⟩

theorem build_ne_invalidDate : build filters ≠ .error (.invalidDate id value) := by
  intro refused
  rcases (build_eq_error_iff filters _).mp refused with
    ⟨before, f, rest, -, -, wrong⟩ | ⟨-, -, before, f, rest, -, -, same⟩
  · rw [misfit] at wrong
    split_ifs at wrong <;> cases wrong
  · cases same

theorem find_of_scanFrom_eq_ok {previous : Option Filter}
    (written : scanFrom previous rest = .ok text) : rest.find? undated = none := by
  induction rest generalizing previous text with
  | nil => rfl
  | cons g rest ih =>
      rw [scanFrom_cons] at written
      obtain ⟨-, tail, -, remaining, -⟩ := followedBy_eq_ok written
      obtain ⟨piece, more, here, later, -⟩ := followedBy_eq_ok remaining
      rw [List.find?_cons_of_neg (ne_true_of_eq_false (undated_of_token here)), ih later]

end Dates

/-- Legacy mode runs into no trap. It fails if some date cannot be read, and then for the first
one; structured mode stops at no other date, and gives no query then. -/
theorem compile_legacy_fails_on_dates (filters : List Filter) :
    legacyByPlace filters filters.zipIdx = .ok (compile .legacy filters) ∧
    ((∃ e, compile .legacy filters = .error e) ↔ ∃ f ∈ filters, f.undated = true) ∧
    (∀ e, compile .legacy filters = .error e ↔
      ∃ f, filters.find? undated = some f ∧ e = .invalidDate f.id f.value) ∧
    (∀ id value, compile .structured filters = .error (.invalidDate id value) →
      compile .legacy filters = .error (.invalidDate id value)) ∧
    ((∃ e, compile .legacy filters = .error e) → ∃ e, compile .structured filters = .error e) := by
  have fails := compile_legacy_eq_error_iff filters
  refine ⟨legacyByPlace_eq [] rfl, ?_, fails, ?_, ?_⟩
  · rw [← List.find?_isSome, Option.isSome_iff_exists]
    constructor
    · rintro ⟨e, failed⟩
      obtain ⟨f, found, -⟩ := (fails e).mp failed
      exact ⟨f, found⟩
    · rintro ⟨f, found⟩
      exact ⟨_, (fails _).mpr ⟨f, found, rfl⟩⟩
  · intro id value stopped
    cases built : build filters with
    | error e =>
        rw [compile_structured_of_fault built] at stopped
        rw [Except.error.inj stopped] at built
        exact absurd built build_ne_invalidDate
    | ok tree =>
        rw [compile_structured_of_build built] at stopped
        exact (fails _).mpr (find_of_scanFrom stopped)
  · rintro ⟨e, failed⟩
    obtain ⟨f, found, -⟩ := (fails e).mp failed
    cases compiled : compile .structured filters with
    | error e' => exact ⟨e', rfl⟩
    | ok q =>
        cases built : build filters with
        | error e' =>
            rw [compile_structured_of_fault built] at compiled
            cases compiled
        | ok tree =>
            rw [compile_structured_of_build built] at compiled
            rw [find_of_scanFrom_eq_ok compiled] at found
            cases found

/-- Two dates that cannot be read, with one identifier for all filters. -/
theorem compile_legacy_of_unread :
    compile .legacy
      [⟨"1", "", .grouping, none, "(", none⟩,
        ⟨"1", "day", .date, some .lessThan, "2020-1-31", none⟩,
        ⟨"1", "day", .date, some .greaterThan, "soon", some .either⟩,
        ⟨"1", "", .grouping, none, ")", none⟩,
        ⟨"1", "end", .date, some .notEquals, "late", none⟩] =
      .error (.invalidDate "1" "soon") :=
  (compile_legacy_fails_on_dates _).2.2.2.1 _ _ (by rfl)

end IndexExport.Filter
