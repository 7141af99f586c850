import IndexExport.Proofs.Filter.Scan
import IndexExport.Proofs.Text.Digits
import Mathlib.Tactic.ByContra
import Mathlib.Tactic.SplitIfs
/-!
# Where a clause ends

Clauses of a query are followed by a space, by the parenthesis that closes their group, or by
nothing. `upToEnd` reads a text up to the first such place outside all brackets. A text that
`Passes` is read as a whole, whatever follows it. Fragments pass when field and value are made
of the usual characters: what spaces there are in them stand in brackets.

So one text cannot begin with two different clauses.
-/
set_option autoImplicit false

namespace IndexExport.Filter

def isBracket (c : Char) : Bool :=
  c = '(' || c = ')' || c = '[' || c = ']'

/-- No brackets. -/
def Plain (text : List Char) : Prop :=
  ∀ c ∈ text, isBracket c = false

/-- No brackets and no spaces. -/
def Solid (text : List Char) : Prop :=
  ∀ c ∈ text, isBracket c = false ∧ c ≠ ' '

instance (text : List Char) : Decidable (Plain text) := List.decidableBAll _ _

instance (text : List Char) : Decidable (Solid text) := List.decidableBAll _ _

def depthAfter (depth : Nat) (c : Char) : Nat :=
  if c = '(' ∨ c = '[' then depth + 1
  else if c = ')' ∨ c = ']' then depth - 1
  else depth

/-- The text up to the end of a clause that has `depth` brackets open. -/
def upToEnd : Nat → List Char → List Char
  | _, [] => []
  | depth, c :: rest =>
    if depth = 0 ∧ (c = ' ' ∨ c = ')') then []
    else c :: upToEnd (depthAfter depth c) rest

/-- No clause ends within the text, and as many brackets are open after it as before. -/
def Passes (depth : Nat) (text : List Char) : Prop :=
  ∀ rest, upToEnd depth (text ++ rest) = text ++ upToEnd depth rest

section Passes

variable {depth : Nat} {text other rest more : List Char} {c opening closing : Char}

theorem depthAfter_of_other (other : isBracket c = false) : depthAfter depth c = depth := by
  simp_all [isBracket, depthAfter]

theorem passes_nil (depth : Nat) : Passes depth [] := fun _ => rfl

theorem Passes.append (first : Passes depth text) (second : Passes depth other) :
    Passes depth (text ++ other) := by
  intro rest
  rw [List.append_assoc, first, second, List.append_assoc]

theorem passes_of_plain (plain : Plain text)
    (inside : depth ≠ 0 ∨ ∀ c ∈ text, c ≠ ' ') : Passes depth text := by
  induction text with
  | nil => exact passes_nil depth
  | cons c text ih =>
      intro rest
      have here := plain c List.mem_cons_self
      have stays : ¬(depth = 0 ∧ (c = ' ' ∨ c = ')')) := by
        rintro ⟨outside, rfl | rfl⟩
        · rcases inside with within | solid
          · exact within outside
          · exact solid ' ' List.mem_cons_self rfl
        · cases here
      have later : depth ≠ 0 ∨ ∀ c ∈ text, c ≠ ' ' :=
        inside.imp_right fun solid c member => solid c (List.mem_cons_of_mem _ member)
      rw [List.cons_append, upToEnd, if_neg stays, depthAfter_of_other here,
        ih (fun c member => plain c (List.mem_cons_of_mem _ member)) later, List.cons_append]

theorem Plain.passes (plain : Plain text) (depth : Nat) : Passes (depth + 1) text :=
  passes_of_plain plain (.inl (Nat.succ_ne_zero depth))

theorem Solid.passes (solid : Solid text) (depth : Nat) : Passes depth text :=
  passes_of_plain (fun c member => (solid c member).1) (.inr fun c member => (solid c member).2)

theorem Passes.bracketed
    (pair : (opening = '(' ∧ closing = ')') ∨ (opening = '[' ∧ closing = ']'))
    (inside : Passes (depth + 1) text) : Passes depth (opening :: (text ++ [closing])) := by
  intro rest
  have opens : upToEnd depth (opening :: (text ++ closing :: rest)) =
      opening :: upToEnd (depth + 1) (text ++ closing :: rest) := by
    rcases pair with ⟨rfl, rfl⟩ | ⟨rfl, rfl⟩
    · rw [upToEnd, if_neg (by simp)]
      rfl
    · rw [upToEnd, if_neg (by simp)]
      rfl
  have closes : upToEnd (depth + 1) (closing :: rest) = closing :: upToEnd depth rest := by
    rcases pair with ⟨rfl, rfl⟩ | ⟨rfl, rfl⟩
    · rw [upToEnd, if_neg (by simp)]
      rfl
    · rw [upToEnd, if_neg (by simp)]
      rfl
  simp only [List.cons_append, List.append_assoc, List.nil_append, opens, inside _, closes]

theorem Passes.unique (first : Passes 0 text) (second : Passes 0 other)
    (ends : upToEnd 0 rest = []) (stops : upToEnd 0 more = [])
    (same : text ++ rest = other ++ more) : text = other ∧ rest = more := by
  have read := congrArg (upToEnd 0) same
  rw [first, second, ends, stops, List.append_nil, List.append_nil] at read
  subst read
  exact ⟨rfl, List.append_cancel_left same⟩

end Passes

/-! ## Characters -/

/-- A letter or digit of ASCII, an underscore, a hyphen or a point. -/
def isNameChar (c : Char) : Bool :=
  c.isAlphanum || c = '_' || c = '-' || c = '.'

def Names (text : List Char) : Prop :=
  ∀ c ∈ text, isNameChar c = true

instance (text : List Char) : Decidable (Names text) := List.decidableBAll _ _

section Characters

variable {c : Char} {text other : List Char}

theorem not_bracket_of_name (name : isNameChar c = true) : isBracket c = false ∧ c ≠ ' ' := by
  refine ⟨?_, ?_⟩
  · by_contra bracket
    simp only [isBracket, Bool.not_eq_false, Bool.or_eq_true, decide_eq_true_eq] at bracket
    rcases bracket with ((rfl | rfl) | rfl) | rfl <;> exact absurd name (by decide)
  · rintro rfl
    exact absurd name (by decide)

theorem name_of_digit (digit : c.isDigit = true) : isNameChar c = true := by
  simp [isNameChar, Char.isAlphanum, digit]

theorem solid_of_names (names : Names text) : Solid text :=
  fun c member => not_bracket_of_name (names c member)

theorem Solid.append (first : Solid text) (second : Solid other) : Solid (text ++ other) :=
  fun c member => (List.mem_append.mp member).elim (first c) (second c)

theorem Solid.cons (first : isBracket c = false ∧ c ≠ ' ') (rest : Solid text) :
    Solid (c :: text) :=
  List.forall_mem_cons.mpr ⟨first, rest⟩

theorem mem_removeFrom {word : List Char} {skip : Nat} (member : c ∈ Text.removeFrom word skip text) :
    c ∈ text := by
  induction text generalizing skip with
  | nil =>
      cases skip <;> cases member
  | cons d rest ih =>
      cases skip with
      | succ skip => exact List.mem_cons_of_mem d (ih member)
      | zero =>
          rw [Text.removeFrom] at member
          split_ifs at member
          · exact List.mem_cons_of_mem d (ih member)
          · rcases List.mem_cons.mp member with rfl | later
            · exact List.mem_cons_self
            · exact List.mem_cons_of_mem d (ih later)

theorem plainQuote_of_name (name : isNameChar c = true) : Text.plainQuote c = c := by
  apply if_neg
  intro quote
  simp only [Text.isStylizedQuote, Bool.or_eq_true, decide_eq_true_eq] at quote
  rcases quote with ((rfl | rfl) | rfl) | rfl <;> exact absurd name (by decide)

theorem names_of_cleanChars (names : Names text) : Names (Text.cleanChars text) := by
  intro c member
  obtain ⟨d, among, rfl⟩ := List.mem_map.mp (mem_removeFrom (mem_removeFrom member))
  rw [plainQuote_of_name (names d among)]
  exact names d among

theorem solid_padded (width n : Nat) : Solid (Text.padded width n) :=
  solid_of_names fun _ member => name_of_digit (Text.isDigit_of_mem_padded member)

theorem solid_hyphen (width n : Nat) : Solid ('-' :: Text.padded width n) :=
  .cons (by decide) (solid_padded width n)

theorem solid_yearText (year : Int) : Solid (Calendar.Date.yearText year) := by
  rw [Calendar.Date.yearText]
  split_ifs
  · exact solid_padded 4 _
  · exact solid_hyphen 4 _
  · exact .cons (by decide) (solid_padded 4 _)

theorem solid_midnight (date : Calendar.Date) : Solid (midnight date).toList := by
  have day : Solid date.render :=
    ((solid_yearText date.year).append (solid_hyphen 2 date.month)).append (solid_hyphen 2 date.day)
  rw [midnight, String.toList_append, String.toList_ofList]
  exact day.append (by decide)

end Characters

/-! ## Fragments -/

/-- Field and value are made of the usual characters. A date may be written in any form. -/
structure Clean (f : Filter) : Prop where
  field : Names f.field.toList
  value : f.kind ≠ .date → Names f.value.toList

theorem clean_iff (f : Filter) :
    f.Clean ↔ Names f.field.toList ∧ (f.kind ≠ .date → Names f.value.toList) :=
  ⟨fun clean => ⟨clean.field, clean.value⟩, fun parts => ⟨parts.1, parts.2⟩⟩

instance (f : Filter) : Decidable f.Clean :=
  decidable_of_iff _ f.clean_iff.symm

section Fragments

variable {f : Filter} {value text : String} {operand : List Char} {depth : Nat}

theorem toList_parenthesized (s : String) :
    ("(" ++ s ++ ")").toList = '(' :: (s.toList ++ [')']) := by
  simp

theorem passes_cleanQuery {s : String} (names : Names s.toList) (depth : Nat) :
    Passes depth ("(" ++ Text.cleanQuery s ++ ")").toList := by
  have solid : Solid (Text.cleanQuery s).toList := by
    rw [Text.cleanQuery, String.toList_ofList]
    exact solid_of_names (names_of_cleanChars names)
  rw [toList_parenthesized]
  exact .bracketed (.inl ⟨rfl, rfl⟩) (solid.passes _)

theorem passes_writtenValue (clean : f.Clean) (written : writtenValue f = .ok value)
    (depth : Nat) : Passes depth value.toList := by
  rw [writtenValue] at written
  by_cases date : f.kind = .date
  · simp only [date] at written
    cases read : Calendar.read? f.value with
    | none =>
        rw [read] at written
        cases written
    | some day =>
        rw [read] at written
        cases written
        exact (solid_midnight day).passes depth
  · have names := clean.value date
    cases kind : f.kind with
    | date => exact absurd kind date
    | text =>
        simp only [kind] at written
        cases written
        exact passes_cleanQuery names depth
    | combo =>
        simp only [kind] at written
        cases written
        exact passes_cleanQuery names depth
    | number | integer | grouping | other =>
        simp only [kind] at written
        cases written
        exact (solid_of_names names).passes depth

/-- What comes after the colon, by itself or in brackets of its own. -/
def Compares (text : String) (f : Filter) (operand : List Char) : Prop :=
  text.toList = f.field.toList ++ ':' :: operand ∨
    text.toList = '(' :: ("*:* -".toList ++ (f.field.toList ++ ':' :: operand) ++ [')'])

theorem passes_quoted (passes : Passes depth operand) :
    Passes depth ('"' :: (operand ++ ['"'])) := by
  have mark : Solid ['"'] := by decide
  exact (mark.passes depth).append (passes.append (mark.passes depth))

theorem passes_below (passes : Passes (depth + 1) operand) :
    Passes depth ('[' :: (("* TO ".toList ++ operand) ++ [']'])) := by
  have least : Plain "* TO ".toList := by decide
  exact .bracketed (.inr ⟨rfl, rfl⟩) ((least.passes depth).append passes)

theorem passes_above (passes : Passes (depth + 1) operand) :
    Passes depth ('[' :: ((operand ++ " TO *".toList) ++ [']'])) := by
  have most : Plain " TO *".toList := by decide
  exact .bracketed (.inr ⟨rfl, rfl⟩) (passes.append (most.passes depth))

theorem fragmentOrFail_eq_ok (made : fragmentOrFail f = .ok text) :
    ∃ value, writtenValue f = .ok value ∧ fragmentWith f value = some text := by
  rw [fragmentOrFail, fragment] at made
  cases written : writtenValue f with
  | error e => simp [written, Except.map] at made
  | ok value =>
      cases held : fragmentWith f value with
      | none => simp [written, held, Except.map] at made
      | some piece =>
          simp only [written, held, Except.map, Except.ok.injEq] at made
          subst made
          exact ⟨value, rfl, held⟩

theorem kind_of_plain (plain : f.kind ≠ .grouping) :
    (f.kind = .date ∨ f.kind = .number ∨ f.kind = .integer) ∨
      (f.kind = .text ∨ f.kind = .combo ∨ f.kind = .other) := by
  cases kind : f.kind <;> simp_all

theorem fragmentWith_of_range (kind : f.kind = .date ∨ f.kind = .number ∨ f.kind = .integer)
    (made : fragmentWith f value = some text) :
    text = f.field ++ ":\"" ++ value ++ "\"" ∨
      text = f.field ++ ":[* TO " ++ value ++ "]" ∨
      text = f.field ++ ":[" ++ value ++ " TO *]" := by
  rw [fragmentWith] at made
  rcases kind with kind | kind | kind
  all_goals
    simp only [kind] at made
    split at made
    · exact .inl (Option.some.inj made).symm
    · exact .inr (.inl (Option.some.inj made).symm)
    · exact .inr (.inr (Option.some.inj made).symm)
    · cases made

theorem fragmentWith_of_word (kind : f.kind = .text ∨ f.kind = .combo ∨ f.kind = .other)
    (made : fragmentWith f value = some text) :
    text = f.field ++ ":" ++ value ∨ text = "(*:* -" ++ f.field ++ ":" ++ value ++ ")" := by
  rw [fragmentWith] at made
  rcases kind with kind | kind | kind
  all_goals
    simp only [kind] at made
    split at made
    · exact .inl (Option.some.inj made).symm
    · exact .inr (Option.some.inj made).symm
    · cases made

theorem compares_of_fragmentWith (plain : f.kind ≠ .grouping)
    (passes : ∀ depth, Passes depth value.toList) (made : fragmentWith f value = some text) :
    ∃ operand, (∀ depth, Passes depth operand) ∧ Compares text f operand := by
  rcases kind_of_plain plain with range | word
  · rcases fragmentWith_of_range range made with rfl | rfl | rfl
    · exact ⟨_, fun depth => passes_quoted (passes depth), .inl (by simp)⟩
    · exact ⟨_, fun depth => passes_below (passes (depth + 1)), .inl (by simp)⟩
    · exact ⟨_, fun depth => passes_above (passes (depth + 1)), .inl (by simp)⟩
  · rcases fragmentWith_of_word word made with rfl | rfl
    · exact ⟨_, passes, .inl (by simp)⟩
    · exact ⟨_, passes, .inr (by simp)⟩

theorem compares_of_fragment (plain : f.kind ≠ .grouping) (clean : f.Clean)
    (made : fragmentOrFail f = .ok text) :
    ∃ operand, (∀ depth, Passes depth operand) ∧ Compares text f operand := by
  obtain ⟨value, written, held⟩ := fragmentOrFail_eq_ok made
  exact compares_of_fragmentWith plain (passes_writtenValue clean written) held

theorem passes_fragment (plain : f.kind ≠ .grouping) (clean : f.Clean)
    (made : fragmentOrFail f = .ok text) (depth : Nat) : Passes depth text.toList := by
  obtain ⟨operand, passes, form⟩ := compares_of_fragment plain clean made
  have field : Solid f.field.toList := solid_of_names clean.field
  have colon : Solid [':'] := by decide
  have compared : ∀ depth, Passes depth (f.field.toList ++ ':' :: operand) := fun depth =>
    (field.passes depth).append ((colon.passes depth).append (passes depth))
  rcases form with form | form
  · rw [form]
    exact compared depth
  · have every : Plain "*:* -".toList := by decide
    rw [form]
    exact .bracketed (.inl ⟨rfl, rfl⟩) ((every.passes depth).append (compared _))

/-- A fragment starts with the field or the colon, or with a parenthesis and a star. -/
theorem start_of_fragment (plain : f.kind ≠ .grouping) (clean : f.Clean)
    (made : fragmentOrFail f = .ok text) :
    (∃ c rest, text.toList = c :: rest ∧ c ≠ '(' ∧ c ≠ '*') ∨
      ∃ rest, text.toList = '(' :: '*' :: rest := by
  obtain ⟨operand, -, form⟩ := compares_of_fragment plain clean made
  rcases form with form | form
  · left
    cases name : f.field.toList with
    | nil =>
        rw [name] at form
        exact ⟨':', operand, form, by decide, by decide⟩
    | cons c rest =>
        rw [name] at form
        have usual := clean.field c (by rw [name]; exact List.mem_cons_self)
        refine ⟨c, _, form, ?_, ?_⟩
        · rintro rfl
          exact absurd usual (by decide)
        · rintro rfl
          exact absurd usual (by decide)
  · exact .inr ⟨_, form⟩

end Fragments

end IndexExport.Filter
