import IndexExport.Proofs.Filter.Scan
import Mathlib.Data.List.Chain
/-!
# The two modes agree

Legacy mode has no tree. It takes a filter for one that needs no join when `positional`
finds the right parenthesis by identifier and value. Two conditions make it find that one:
no filter is a parenthesis, or the identifiers are distinct and no plain filter that looks
like an opening parenthesis stands in front of a closing one. Then legacy mode writes
what structured mode writes, at any depth of nesting.
-/
set_option autoImplicit false

namespace IndexExport.Filter

/-! ## What the search finds -/

theorem firstParenthesis_of_no_grouping {filters : List Filter}
    (plain : ∀ f ∈ filters, f.kind ≠ .grouping) (before id : String) :
    firstParenthesis before id filters = false := by
  induction filters with
  | nil => rfl
  | cons f rest ih =>
      have here : f.kind ≠ .grouping := plain f (by simp)
      have later := ih fun g member => plain g (by simp [member])
      simp [firstParenthesis, here, later]

theorem positional_of_no_grouping {filters : List Filter}
    (plain : ∀ f ∈ filters, f.kind ≠ .grouping) (id : String) :
    positional filters id = false := by
  rw [positional.eq_def]
  split
  · exact firstParenthesis_of_no_grouping plain _ _
  · rfl

/-- Filters with other identifiers are passed over. -/
theorem firstParenthesis_append {before id : String} {passed : List Filter}
    (others : ∀ g ∈ passed, g.id ≠ before ∧ g.id ≠ id) (rest : List Filter) :
    firstParenthesis before id (passed ++ rest) = firstParenthesis before id rest := by
  induction passed with
  | nil => rfl
  | cons g passed ih =>
      obtain ⟨notBefore, notId⟩ := others g (by simp)
      have later := ih fun h member => others h (by simp [member])
      simp [firstParenthesis, notBefore, notId, later]

/-- By induction on the filters between the one that the search starts from and the last one
before the identifier is found. -/
theorem idBefore_append {id : String} {f p : Filter} (found : f.id = id) {between : List Filter}
    (others : ∀ g ∈ between ++ [p], g.id ≠ id) (start : Filter) (rest : List Filter) :
    idBefore id start (between ++ p :: f :: rest) = some p.id := by
  induction between generalizing start with
  | nil =>
      have other : p.id ≠ id := others p (by simp)
      simp [idBefore, other, found]
  | cons g between ih =>
      have other : g.id ≠ id := others g (by simp)
      rw [List.cons_append, idBefore, if_neg other]
      exact ih (fun h member => others h (List.mem_cons_of_mem g member)) g

theorem idBefore_of_distinct {first p f : Filter} {tail before rest : List Filter}
    (split : first :: tail = before ++ p :: f :: rest)
    (others : ∀ g ∈ before ++ [p], g.id ≠ f.id) :
    idBefore f.id first tail = some p.id := by
  cases before with
  | nil =>
      obtain ⟨rfl, rfl⟩ := List.cons.inj split
      simp [idBefore]
  | cons g between =>
      obtain ⟨rfl, rfl⟩ := List.cons.inj split
      exact idBefore_append rfl (fun h member => others h (List.mem_cons_of_mem _ member)) _ _

/-- Two neighbours have identifiers that stand nowhere else. -/
theorem others_of_distinct {before rest : List Filter} {p f : Filter}
    (distinct : ((before ++ p :: f :: rest).map Filter.id).Nodup) :
    (∀ g ∈ before, g.id ≠ p.id ∧ g.id ≠ f.id) ∧ p.id ≠ f.id ∧
      ∀ g ∈ rest, g.id ≠ p.id ∧ g.id ≠ f.id := by
  rw [List.map_append, List.nodup_append] at distinct
  obtain ⟨-, pair, apart⟩ := distinct
  simp only [List.map_cons, List.nodup_cons, List.mem_cons, List.mem_map, not_or,
    not_exists, not_and] at pair apart
  obtain ⟨⟨differ, notFirst⟩, notSecond, -⟩ := pair
  refine ⟨?_, differ, ?_⟩
  · intro g member
    have away := apart g.id ⟨g, member, rfl⟩
    exact ⟨away p.id (.inl rfl), away f.id (.inr (.inl rfl))⟩
  · intro g member
    exact ⟨notFirst g member, notSecond g member⟩

/-- The search looks at the filter before the one in question and then at that one. -/
theorem firstParenthesis_of_distinct {before rest : List Filter} {p f : Filter}
    (distinct : ((before ++ p :: f :: rest).map Filter.id).Nodup) :
    firstParenthesis p.id f.id (before ++ p :: f :: rest) =
      if p.value = "(" then decide (p.kind = .grouping)
      else decide (f.value = ")") && decide (f.kind = .grouping) := by
  obtain ⟨ahead, differ, behind⟩ := others_of_distinct distinct
  have nothing : firstParenthesis p.id f.id rest = false := by
    rw [← List.append_nil rest, firstParenthesis_append behind []]
    rfl
  rw [firstParenthesis_append ahead]
  by_cases looksOpen : p.value = "("
  · simp [firstParenthesis, looksOpen]
  · by_cases looksClosed : f.value = ")" <;>
      simp [firstParenthesis, looksOpen, looksClosed, differ, differ.symm, nothing]

/-- What the search finds is what stands there. -/
theorem positional_of_distinct {before rest : List Filter} {p f : Filter}
    (distinct : ((before ++ p :: f :: rest).map Filter.id).Nodup)
    (apart : f.closesGroup = true → p.kind ≠ .grouping → p.value ≠ "(") :
    positional (before ++ p :: f :: rest) f.id = (f.closesGroup || p.opensGroup) := by
  have found : positional (before ++ p :: f :: rest) f.id =
      firstParenthesis p.id f.id (before ++ p :: f :: rest) := by
    obtain ⟨ahead, differ, -⟩ := others_of_distinct distinct
    have others : ∀ g ∈ before ++ [p], g.id ≠ f.id := by
      intro g member
      rcases List.mem_append.mp member with early | last
      · exact (ahead g early).2
      · rw [List.mem_singleton.mp last]
        exact differ
    cases split : before ++ p :: f :: rest with
    | nil => simp at split
    | cons first tail =>
        cases tail with
        | nil =>
            have lengths := congrArg List.length split
            simp at lengths
            omega
        | cons second more =>
            rw [positional, idBefore_of_distinct split.symm others, Option.getD_some]
  rw [found, firstParenthesis_of_distinct distinct]
  by_cases looksOpen : p.value = "("
  · by_cases grouping : p.kind = .grouping
    · simp [opensGroup, looksOpen, grouping]
    · have notClosing : f.closesGroup = false := by
        cases closes : f.closesGroup with
        | false => rfl
        | true => exact absurd looksOpen (apart closes grouping)
      simp [opensGroup, looksOpen, grouping, notClosing]
  · simp [opensGroup, closesGroup, looksOpen, Bool.and_comm]

/-! ## Writing the list -/

/-- Every filter after the first is taken for what it is. -/
def Recognised (filters : List Filter) : Prop :=
  ∀ before p f rest, filters = before ++ p :: f :: rest →
    positional filters f.id = (f.closesGroup || p.opensGroup)

theorem recognised_of_no_grouping {filters : List Filter}
    (plain : ∀ f ∈ filters, f.kind ≠ .grouping) : Recognised filters := by
  intro before p f rest split
  have first : p.kind ≠ .grouping := plain p (by simp [split])
  have second : f.kind ≠ .grouping := plain f (by simp [split])
  rw [positional_of_no_grouping plain]
  simp [opensGroup, closesGroup, first, second]

theorem recognised_of_distinct {filters : List Filter}
    (distinct : (filters.map Filter.id).Nodup)
    (apart : filters.IsChain fun p f =>
      f.closesGroup = true → p.kind ≠ .grouping → p.value ≠ "(") : Recognised filters := by
  rintro before p f rest rfl
  apply positional_of_distinct distinct
  have pair := (List.isChain_append.mp apart).2.1
  exact (List.isChain_cons_cons.mp pair).1

theorem text_of_joinEmitted {f : Filter} {text : String} (written : joinEmitted f = .ok text) :
    text = joinText (f.join.getD .both) := by
  rw [joinEmitted.eq_def] at written
  split at written
  · next join => rw [join, ← Except.ok.inj written]; rfl
  · next join => rw [join, ← Except.ok.inj written]; rfl
  · cases written
  · cases written

theorem fragment_of_token {f : Filter} {text : String} (written : token f = .ok text) :
    fragment f = .ok (some text) := by
  by_cases opens : f.opensGroup = true
  · rw [token_open opens] at written
    cases written
    obtain ⟨grouping, value⟩ := (opensGroup_iff f).mp opens
    simp [fragment, writtenValue, fragmentWith, grouping, value, Except.map]
  · by_cases closes : f.closesGroup = true
    · rw [token_close closes] at written
      cases written
      obtain ⟨grouping, value⟩ := (closesGroup_iff f).mp closes
      simp [fragment, writtenValue, fragmentWith, grouping, value, Except.map]
    · rw [token, if_neg opens, if_neg closes, fragmentOrFail] at written
      split at written
      · cases written
      · cases written
      · next piece => rw [piece, Except.ok.inj written]

theorem legacyFrom_cons (filters : List Filter) (isFirst : Bool) (f : Filter)
    (rest : List Filter) :
    (legacyFrom filters isFirst (f :: rest)).1 =
      match fragment f with
      | .error e => .error e
      | .ok piece => (legacyFrom filters false rest).1.map fun more =>
          (legacyJoin filters isFirst f).1 ++ piece.getD "" ++ more := by
  rw [legacyFrom]
  cases fragment f <;> rfl

/-- Where the strict pass writes a join, legacy mode writes the same. -/
theorem legacyJoin_of_scanJoin {filters before rest : List Filter} {f : Filter} {text : String}
    (recognised : Recognised filters) (split : filters = before ++ f :: rest)
    (joined : scanJoin before.getLast? f = .ok text) :
    (legacyJoin filters before.isEmpty f).1 = text := by
  cases previous : before.getLast? with
  | none =>
      rw [previous] at joined
      rw [List.getLast?_eq_none_iff.mp previous]
      exact Except.ok.inj joined
  | some p =>
      obtain ⟨ahead, rfl⟩ := List.getLast?_eq_some_iff.mp previous
      rw [previous, scanJoin] at joined
      have found : positional filters f.id = (f.closesGroup || p.opensGroup) := by
        apply recognised ahead p f rest
        rw [split, List.append_assoc, List.singleton_append]
      rw [legacyJoin, found]
      by_cases silent : (f.closesGroup || p.opensGroup) = true
      · rw [if_pos silent] at joined
        simp only [silent, Bool.or_true, if_true]
        exact Except.ok.inj joined
      · rw [if_neg silent] at joined
        have notFirst : (ahead ++ [p]).isEmpty = false := by simp
        rw [notFirst, Bool.false_or, if_neg silent]
        exact (text_of_joinEmitted joined).symm

/-- By induction on what is left of the list. -/
theorem legacyFrom_of_scanFrom {filters : List Filter} (recognised : Recognised filters)
    (before : List Filter) {rest : List Filter} {q : String} (split : filters = before ++ rest)
    (scanned : scanFrom before.getLast? rest = .ok q) :
    (legacyFrom filters before.isEmpty rest).1 = .ok q := by
  induction rest generalizing before q with
  | nil => exact scanned
  | cons f rest ih =>
      rw [scanFrom_cons] at scanned
      obtain ⟨join, tail, joined, written, rfl⟩ := followedBy_eq_ok scanned
      obtain ⟨text, more, ofToken, later, rfl⟩ := followedBy_eq_ok written
      have goesOn : (legacyFrom filters false rest).1 = .ok more := by
        have whole := ih (before ++ [f])
          (by rw [split, List.append_assoc, List.singleton_append])
          (by rw [List.getLast?_concat, later])
        have notFirst : (before ++ [f]).isEmpty = false := by simp
        rwa [notFirst] at whole
      rw [legacyFrom_cons, fragment_of_token ofToken, goesOn,
        legacyJoin_of_scanJoin recognised split joined]
      simp [Except.map, String.append_assoc]

/-- Legacy mode writes what structured mode writes, where no filter is a parenthesis, and
where identifiers are distinct and no plain `(` stands in front of a closing parenthesis. -/
theorem compile_legacy_of_structured (filters : List Filter) (q : String)
    (clear : (∀ f ∈ filters, f.kind ≠ .grouping) ∨
      ((filters.map Filter.id).Nodup ∧ filters.IsChain fun p f =>
        f.closesGroup = true → p.kind ≠ .grouping → p.value ≠ "("))
    (compiled : compile .structured filters = .ok q) : compile .legacy filters = .ok q := by
  have recognised : Recognised filters := by
    rcases clear with plain | ⟨distinct, apart⟩
    · exact recognised_of_no_grouping plain
    · exact recognised_of_distinct distinct apart
  have scanned : scan filters = .ok q := by
    cases built : build filters with
    | error e =>
        rw [compile_structured_of_fault built] at compiled
        cases compiled
    | ok tree => rw [← compile_structured_of_build built, compiled]
  exact legacyFrom_of_scanFrom recognised [] rfl scanned

/-- Two groups inside one another, between plain filters. -/
theorem compile_legacy_nested :
    compile .legacy
      [⟨"1", "a", .integer, some .equals, "1", none⟩,
        ⟨"2", "", .grouping, none, "(", some .either⟩,
        ⟨"3", "", .grouping, none, "(", none⟩,
        ⟨"4", "b", .integer, some .lessThan, "2", none⟩,
        ⟨"5", "c", .other, some .notEquals, "(", some .both⟩,
        ⟨"6", "d", .number, some .equals, "4", some .either⟩,
        ⟨"7", "", .grouping, none, ")", none⟩,
        ⟨"8", "e", .integer, some .greaterThan, "5", some .both⟩,
        ⟨"9", "", .grouping, none, ")", none⟩,
        ⟨"10", "f", .integer, some .equals, "6", some .both⟩] =
      .ok "a:\"1\" OR ((b:[* TO 2] AND (*:* -c:() OR d:\"4\") AND e:[5 TO *]) AND f:\"6\"" :=
  compile_legacy_of_structured _ _ (.inr (by decide)) (by rfl)

end IndexExport.Filter
