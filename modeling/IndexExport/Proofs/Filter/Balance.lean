import IndexExport.Proofs.Filter.Unambiguous
import Mathlib.Data.List.Infix
/-!
# Queries with balanced parentheses

Where the parentheses of fields and values are balanced, those of the query are. Cleaning a value
takes out words and puts in quotes, but it leaves the parentheses of the value in their order;
and whatever the compilation adds, it adds in pairs around balanced texts.
-/
set_option autoImplicit false

namespace IndexExport.Filter

/-- At no point of the text are more parentheses closed than opened, and at its end as many. -/
structure Balanced (text : List Char) : Prop where
  starts : ∀ start, start <+: text → start.count ')' ≤ start.count '('
  whole : text.count '(' = text.count ')'

theorem balanced_iff (text : List Char) :
    Balanced text ↔
      (∀ start ∈ text.inits, start.count ')' ≤ start.count '(') ∧
        text.count '(' = text.count ')' := by
  simp only [List.mem_inits]
  exact ⟨fun balanced => ⟨balanced.starts, balanced.whole⟩, fun parts => ⟨parts.1, parts.2⟩⟩

instance (text : List Char) : Decidable (Balanced text) :=
  decidable_of_iff _ (balanced_iff text).symm

def isParenthesis (c : Char) : Bool :=
  c = '(' || c = ')'

section Balanced

variable {text other : List Char}

theorem count_filter_isParenthesis (text : List Char) :
    (text.filter isParenthesis).count '(' = text.count '(' ∧
      (text.filter isParenthesis).count ')' = text.count ')' := by
  constructor <;> exact List.count_filter (by decide)

/-- Only the parentheses count, in their order. -/
theorem balanced_filter_iff (text : List Char) :
    Balanced (text.filter isParenthesis) ↔ Balanced text := by
  constructor
  · intro balanced
    refine ⟨?_, ?_⟩
    · intro start before
      have counted := balanced.starts _ (before.filter isParenthesis)
      rwa [(count_filter_isParenthesis start).1, (count_filter_isParenthesis start).2] at counted
    · have counted := balanced.whole
      rwa [(count_filter_isParenthesis text).1, (count_filter_isParenthesis text).2] at counted
  · intro balanced
    refine ⟨?_, ?_⟩
    · rintro start ⟨after, split⟩
      obtain ⟨before, rest, rfl, rfl, rfl⟩ := List.filter_eq_append_iff.mp split.symm
      rw [(count_filter_isParenthesis before).1, (count_filter_isParenthesis before).2]
      exact balanced.starts before (List.prefix_append before rest)
    · rw [(count_filter_isParenthesis text).1, (count_filter_isParenthesis text).2]
      exact balanced.whole

theorem balanced_nil : Balanced [] := by decide

theorem balanced_of_free (free : ∀ c ∈ text, isParenthesis c = false) : Balanced text := by
  have none : text.filter isParenthesis = [] := by
    rw [List.filter_eq_nil_iff]
    intro c member
    simp [free c member]
  rw [← balanced_filter_iff, none]
  exact balanced_nil

theorem Balanced.append (first : Balanced text) (second : Balanced other) :
    Balanced (text ++ other) := by
  refine ⟨?_, ?_⟩
  · intro start before
    rcases List.prefix_or_prefix_of_prefix before (List.prefix_append text other) with
      within | ⟨rest, rfl⟩
    · exact first.starts start within
    · have rest := second.starts rest ((List.prefix_append_right_inj text).mp before)
      have whole := first.whole
      simp only [List.count_append]
      omega
  · simp only [List.count_append, first.whole, second.whole]

theorem Balanced.parenthesized (inside : Balanced text) : Balanced ('(' :: (text ++ [')'])) := by
  refine ⟨?_, ?_⟩
  · intro start before
    rcases List.prefix_cons_iff.mp before with rfl | ⟨rest, rfl, within⟩
    · exact Nat.le_refl _
    rcases List.prefix_concat_iff.mp within with rfl | short
    · simp [inside.whole]
    · have counted := inside.starts rest short
      simp only [List.count_cons]
      simp
      omega
  · simp [inside.whole]

end Balanced

/-! ## Cleaned values -/

/-- A word without parentheses can be taken out of a text. By induction on the text; `skip`
characters are left of an occurrence of the word that was found before. -/
theorem filter_removeFrom {word : List Char} {keeps : Char → Bool}
    (free : ∀ c ∈ word, keeps c = false) (named : word ≠ []) (skip : Nat) (text : List Char) :
    (Text.removeFrom word skip text).filter keeps = (text.drop skip).filter keeps := by
  induction text generalizing skip with
  | nil => cases skip <;> simp [Text.removeFrom]
  | cons c rest ih =>
      cases skip with
      | succ skip => rw [Text.removeFrom, ih, List.drop_succ_cons]
      | zero =>
          rw [Text.removeFrom]
          split
          · next found =>
            obtain ⟨after, whole⟩ := List.isPrefixOf_iff_prefix.mp found
            have behind : rest.drop (word.length - 1) = after := by
              cases word with
              | nil => exact absurd rfl named
              | cons first word =>
                  obtain ⟨-, rfl⟩ := List.cons.inj whole
                  simp
            have none : word.filter keeps = [] := by
              rw [List.filter_eq_nil_iff]
              intro d member
              simp [free d member]
            rw [ih, behind, List.drop_zero, ← whole, List.filter_append, none, List.nil_append]
          · rw [List.filter_cons, ih, List.drop_zero, List.drop_zero, List.filter_cons]

theorem filter_removeAll {word : List Char} (free : ∀ c ∈ word, isParenthesis c = false)
    (named : word ≠ []) (text : List Char) :
    (Text.removeAll word text).filter isParenthesis = text.filter isParenthesis :=
  filter_removeFrom free named 0 text

theorem filter_map_plainQuote (text : List Char) :
    (text.map Text.plainQuote).filter isParenthesis = text.filter isParenthesis := by
  induction text with
  | nil => rfl
  | cons c rest ih =>
      by_cases quote : Text.isStylizedQuote c = true
      · have other : isParenthesis c = false := by
          simp only [Text.isStylizedQuote, Bool.or_eq_true, decide_eq_true_eq] at quote
          rcases quote with ((rfl | rfl) | rfl) | rfl <;> decide
        have plain : isParenthesis '"' = false := by decide
        simp [Text.plainQuote, quote, other, plain, ih]
      · simp [Text.plainQuote, quote, List.filter_cons, ih]

theorem filter_cleanChars (text : List Char) :
    (Text.cleanChars text).filter isParenthesis = text.filter isParenthesis := by
  have function : ∀ c ∈ Text.functionWord, isParenthesis c = false := by
    simp [Text.functionWord, isParenthesis]
  have value : ∀ c ∈ Text.valueWord, isParenthesis c = false := by
    simp [Text.valueWord, isParenthesis]
  rw [Text.cleanChars, filter_removeAll value (List.cons_ne_nil _ _),
    filter_removeAll function (List.cons_ne_nil _ _), filter_map_plainQuote]

theorem balanced_cleanQuery {s : String} (balanced : Balanced s.toList) :
    Balanced (Text.cleanQuery s).toList := by
  rw [Text.cleanQuery, String.toList_ofList, ← balanced_filter_iff, filter_cleanChars,
    balanced_filter_iff]
  exact balanced

/-! ## Fragments -/

section Fragments

variable {f : Filter} {value text : String}

theorem balanced_writtenValue (balanced : f.kind ≠ .date → Balanced f.value.toList)
    (written : writtenValue f = .ok value) : Balanced value.toList := by
  rw [writtenValue] at written
  cases kind : f.kind with
  | text | combo =>
      have cleaned := balanced_cleanQuery (balanced (by simp [kind]))
      simp only [kind, Except.ok.injEq] at written
      subst written
      rw [toList_parenthesized]
      exact cleaned.parenthesized
  | date =>
      simp only [kind] at written
      cases read : Calendar.read? f.value with
      | none => simp [read] at written
      | some day =>
          simp only [read, Except.ok.injEq] at written
          subst written
          apply balanced_of_free
          intro c member
          have solid := (solid_midnight day c member).1
          simp_all [isBracket, isParenthesis]
  | number | integer | grouping | other =>
      simp only [kind, Except.ok.injEq] at written
      subst written
      exact balanced (by simp [kind])

/-- Beside field and value, a fragment holds no parentheses but those around all of it. -/
theorem balanced_fragmentWith (plain : f.kind ≠ .grouping) (field : Balanced f.field.toList)
    (operand : Balanced value.toList) (made : fragmentWith f value = some text) :
    Balanced text.toList := by
  have between : ∀ before after : String, Balanced before.toList → Balanced after.toList →
      Balanced (f.field.toList ++ (before.toList ++ (value.toList ++ after.toList))) := by
    intro before after first last
    exact field.append (first.append (operand.append last))
  rcases kind_of_plain plain with range | word
  · rcases fragmentWith_of_range range made with rfl | rfl | rfl
    · simpa using between ":\"" "\"" (by decide) (by decide)
    · simpa using between ":[* TO " "]" (by decide) (by decide)
    · simpa using between ":[" " TO *]" (by decide) (by decide)
  · have compared := between ":" "" (by decide) (by decide)
    rcases fragmentWith_of_word word made with rfl | rfl
    · simpa using compared
    · have every : Balanced "*:* -".toList := by decide
      simpa using (every.append compared).parenthesized

theorem balanced_fragment (plain : f.kind ≠ .grouping) (field : Balanced f.field.toList)
    (balanced : f.kind ≠ .date → Balanced f.value.toList) (made : fragmentOrFail f = .ok text) :
    Balanced text.toList := by
  obtain ⟨value, written, held⟩ := fragmentOrFail_eq_ok made
  exact balanced_fragmentWith plain field (balanced_writtenValue balanced written) held

end Fragments

/-! ## Queries -/

theorem composes_balanced : Composes Balanced Balanced where
  nothing := balanced_nil
  append := Balanced.append
  join := by
    intro id join text required
    rcases requiredJoin_cases required with ⟨-, rfl⟩ | ⟨-, rfl⟩ <;> decide
  alone balanced := balanced
  group := Balanced.parenthesized

/-- A query in structured mode is balanced if the fields are, and the values of all filters but
dates. -/
theorem balanced_of_compile_structured {filters : List Filter} {q : String}
    (fields : ∀ f ∈ filters, f.kind ≠ .grouping → Balanced f.field.toList)
    (values : ∀ f ∈ filters, f.kind ≠ .grouping → f.kind ≠ .date → Balanced f.value.toList)
    (compiled : compile .structured filters = .ok q) : Balanced q.toList := by
  obtain ⟨tree, built, made⟩ := build_of_compile compiled
  refine composes_balanced.of_first tree ?_ made
  intro f member text written
  rcases leaves_of_buildFrom built member with here | ⟨group, held, -⟩ | ⟨among, plain⟩
  · cases here
  · cases held
  · exact balanced_fragment plain (fields f among plain) (values f among plain) written

/-- A word taken out between two parentheses, a value of several pairs that is not to be matched,
and a date with a blank and a sign in it, in groups inside one another. -/
def nestedGroups : List Filter :=
  [⟨"1", "", .grouping, none, "(", none⟩,
    ⟨"2", "", .grouping, none, "(", none⟩,
    ⟨"3", "title", .text, some .equals, "(a _val_(b)) (c{!func})", none⟩,
    ⟨"4", "kind", .combo, some .notEquals, "(x)(y)", some .either⟩,
    ⟨"5", "", .grouping, none, ")", none⟩,
    ⟨"6", "day", .date, some .lessThan, " 2020-1-31", some .both⟩,
    ⟨"7", "", .grouping, none, ")", none⟩]

theorem balanced_nested_groups : Balanced
    ("((title:((a (b)) (c)) OR (*:* -kind:((x)(y)))) AND day:[* TO 2020-01-31T00:00:00Z])").toList := by
  have fields : ∀ f ∈ nestedGroups, f.kind ≠ .grouping → Balanced f.field.toList := by decide
  have values : ∀ f ∈ nestedGroups, f.kind ≠ .grouping → f.kind ≠ .date →
      Balanced f.value.toList := by decide
  exact balanced_of_compile_structured fields values (by rfl)

end IndexExport.Filter
