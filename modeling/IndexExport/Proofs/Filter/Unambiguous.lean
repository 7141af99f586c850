import IndexExport.Proofs.Filter.Ends
/-!
# Queries have one reading

Two clause trees that are written alike are alike: of the same shape, with the same joins, and
with the same fragment at each leaf. Each clause passes as a whole, so the texts of two
sequences agree clause by clause, and a group starts unlike any fragment.
-/
set_option autoImplicit false

namespace IndexExport.Filter

mutual

/-- The filters of a clause that are no parentheses. -/
def Clause.leaves : Clause → List Filter
  | .leaf f => [f]
  | .group _ clauses => leavesOf clauses

def leavesOf : List Clause → List Filter
  | [] => []
  | c :: rest => c.leaves ++ leavesOf rest

end

mutual

/-- Clauses of the same shape, with the same fragments and joins. -/
inductive Clause.Alike : Clause → Clause → Prop
  | leaf {f g : Filter} {text : String} (first : fragmentOrFail f = .ok text)
      (second : fragmentOrFail g = .ok text) : Clause.Alike (.leaf f) (.leaf g)
  | group {opener other : Filter} {clauses others : List Clause}
      (within : AlikeFirst clauses others) : Clause.Alike (.group opener clauses) (.group other others)

/-- Sequences of such clauses. The join of the first one does not count. -/
inductive AlikeFirst : List Clause → List Clause → Prop
  | nil : AlikeFirst [] []
  | cons {c d : Clause} {rest more : List Clause} (first : Clause.Alike c d)
      (later : AlikeRest rest more) : AlikeFirst (c :: rest) (d :: more)

/-- What follows the first clause of a sequence. -/
inductive AlikeRest : List Clause → List Clause → Prop
  | nil : AlikeRest [] []
  | cons {c d : Clause} {rest more : List Clause} (join : c.join = d.join)
      (next : Clause.Alike c d) (later : AlikeRest rest more) : AlikeRest (c :: rest) (d :: more)

end

def CleanLeaves (filters : List Filter) : Prop :=
  ∀ f ∈ filters, f.kind ≠ .grouping ∧ f.Clean

section Leaves

variable {f : Filter} {clauses rest : List Clause} {c : Clause} {filters others : List Filter}

theorem CleanLeaves.left (clean : CleanLeaves (filters ++ others)) : CleanLeaves filters :=
  fun f member => clean f (List.mem_append_left others member)

theorem CleanLeaves.right (clean : CleanLeaves (filters ++ others)) : CleanLeaves others :=
  fun f member => clean f (List.mem_append_right filters member)

theorem mem_leavesOf : f ∈ leavesOf clauses ↔ ∃ c ∈ clauses, f ∈ c.leaves := by
  induction clauses with
  | nil => simp [leavesOf]
  | cons c rest ih => simp [leavesOf, ih]

theorem leaves_of_buildFrom {stack : List OpenGroup} {tree : List Clause}
    {remaining : List Filter} (built : buildFrom stack clauses remaining = .ok tree)
    (member : f ∈ leavesOf tree) :
    f ∈ leavesOf clauses ∨ (∃ group ∈ stack, f ∈ leavesOf group.2) ∨
      (f ∈ remaining ∧ f.kind ≠ .grouping) := by
  induction remaining generalizing stack clauses with
  | nil =>
      obtain ⟨rfl, rfl⟩ := buildFrom_nil built
      obtain ⟨c, among, leaf⟩ := mem_leavesOf.mp member
      exact .inl (mem_leavesOf.mpr ⟨c, List.mem_reverse.mp among, leaf⟩)
  | cons g remaining ih =>
      rcases buildFrom_cons built with ⟨plain, grown⟩ | ⟨-, grown⟩ |
        ⟨-, opener, before, outer, rfl, grown⟩
      · rcases ih grown with here | held | ⟨later, kind⟩
        · rw [leavesOf, Clause.leaves, List.singleton_append] at here
          rcases List.mem_cons.mp here with rfl | known
          · exact .inr (.inr ⟨List.mem_cons_self, plain⟩)
          · exact .inl known
        · exact .inr (.inl held)
        · exact .inr (.inr ⟨List.mem_cons_of_mem g later, kind⟩)
      · rcases ih grown with here | ⟨group, held, known⟩ | ⟨later, kind⟩
        · cases here
        · rcases List.mem_cons.mp held with rfl | around
          · exact .inl known
          · exact .inr (.inl ⟨group, around, known⟩)
        · exact .inr (.inr ⟨List.mem_cons_of_mem g later, kind⟩)
      · rcases ih grown with here | ⟨group, held, known⟩ | ⟨later, kind⟩
        · rw [leavesOf, Clause.leaves] at here
          rcases List.mem_append.mp here with within | known
          · obtain ⟨c, among, leaf⟩ := mem_leavesOf.mp within
            exact .inl (mem_leavesOf.mpr ⟨c, List.mem_reverse.mp among, leaf⟩)
          · exact .inr (.inl ⟨_, List.mem_cons_self, known⟩)
        · exact .inr (.inl ⟨group, List.mem_cons_of_mem _ held, known⟩)
        · exact .inr (.inr ⟨List.mem_cons_of_mem g later, kind⟩)

end Leaves

/-! ## Clauses as wholes -/

section Wholes

variable {text more other : String} {id : String} {join : Option Join}

theorem requiredJoin_cases (required : requiredJoin id join = .ok text) :
    (join = some .both ∧ text = " AND ") ∨ (join = some .either ∧ text = " OR ") := by
  rcases join with _ | (_ | _ | _)
  · cases required
  · exact .inl ⟨rfl, (Except.ok.inj required).symm⟩
  · exact .inr ⟨rfl, (Except.ok.inj required).symm⟩
  · cases required

theorem passes_join (required : requiredJoin id join = .ok text) (depth : Nat) :
    Passes (depth + 1) text.toList := by
  have both : Plain " AND ".toList := by decide
  have either : Plain " OR ".toList := by decide
  rcases requiredJoin_cases required with ⟨-, rfl⟩ | ⟨-, rfl⟩
  · exact both.passes depth
  · exact either.passes depth

theorem group_eq_ok {opener : Filter} {clauses : List Clause}
    (made : renderClause (.group opener clauses) = .ok text) :
    ∃ inner, renderFirst clauses = .ok inner ∧ text = "(" ++ inner ++ ")" := by
  rw [renderClause_group] at made
  obtain ⟨_, tail, ⟨⟩, rest, rfl⟩ := followedBy_eq_ok made
  obtain ⟨inner, _, written, ⟨⟩, rfl⟩ := followedBy_eq_ok rest
  exact ⟨inner, written, (String.append_assoc ..).symm⟩

/-- Two properties of texts, of clauses and of sequences, that follow from those of fragments. -/
structure Composes (clause sequence : List Char → Prop) : Prop where
  nothing : sequence []
  append : ∀ {text other : List Char}, sequence text → sequence other → sequence (text ++ other)
  join : ∀ {id : String} {join : Option Join} {text : String},
    requiredJoin id join = .ok text → sequence text.toList
  alone : ∀ {text : List Char}, clause text → sequence text
  group : ∀ {text : List Char}, sequence text → clause ('(' :: (text ++ [')']))

section Composes

variable {clause sequence : List Char → Prop}

mutual

theorem Composes.of_clause (ways : Composes clause sequence) : (c : Clause) →
    (∀ f ∈ c.leaves, ∀ text, fragmentOrFail f = .ok text → clause text.toList) →
    ∀ {text : String}, renderClause c = .ok text → clause text.toList
  | .leaf f, leaf, text, made => leaf f List.mem_cons_self text made
  | .group _ clauses, leaf, _, made => by
      obtain ⟨inner, written, rfl⟩ := group_eq_ok made
      rw [toList_parenthesized]
      exact ways.group (ways.of_first clauses leaf written)

theorem Composes.of_first (ways : Composes clause sequence) : (clauses : List Clause) →
    (∀ f ∈ leavesOf clauses, ∀ text, fragmentOrFail f = .ok text → clause text.toList) →
    ∀ {text : String}, renderFirst clauses = .ok text → sequence text.toList
  | [], _, _, made => by
      cases made
      exact ways.nothing
  | c :: rest, leaf, _, made => by
      rw [renderFirst_cons] at made
      obtain ⟨first, later, written, others, rfl⟩ := followedBy_eq_ok made
      rw [String.toList_append]
      have here := ways.of_clause c (fun f member => leaf f (List.mem_append_left _ member)) written
      have behind := ways.of_rest rest (fun f member => leaf f (List.mem_append_right _ member)) others
      exact ways.append (ways.alone here) behind

theorem Composes.of_rest (ways : Composes clause sequence) : (clauses : List Clause) →
    (∀ f ∈ leavesOf clauses, ∀ text, fragmentOrFail f = .ok text → clause text.toList) →
    ∀ {text : String}, renderRest clauses = .ok text → sequence text.toList
  | [], _, _, made => by
      cases made
      exact ways.nothing
  | c :: rest, leaf, _, made => by
      rw [renderRest_cons] at made
      obtain ⟨join, tail, required, remaining, rfl⟩ := followedBy_eq_ok made
      obtain ⟨first, later, written, others, rfl⟩ := followedBy_eq_ok remaining
      rw [String.toList_append, String.toList_append]
      have here := ways.of_clause c (fun f member => leaf f (List.mem_append_left _ member)) written
      have behind := ways.of_rest rest (fun f member => leaf f (List.mem_append_right _ member)) others
      exact ways.append (ways.join required) (ways.append (ways.alone here) behind)

end

end Composes

theorem composes_passes :
    Composes (fun text => ∀ depth, Passes depth text) fun text => ∀ depth, Passes (depth + 1) text where
  nothing _ := passes_nil _
  append first second depth := (first depth).append (second depth)
  join required depth := passes_join required depth
  alone passes _ := passes _
  group passes depth := .bracketed (.inl ⟨rfl, rfl⟩) (passes depth)

theorem passes_clause {c : Clause} (clean : CleanLeaves c.leaves) (made : renderClause c = .ok text)
    (depth : Nat) : Passes depth text.toList := by
  refine composes_passes.of_clause c ?_ made depth
  intro f member text written
  exact passes_fragment (clean f member).1 (clean f member).2 written

/-! ## Texts apart -/

/-- After a clause of a sequence the text is over, or goes on with a space. -/
theorem ends_of_rest {clauses : List Clause} (made : renderRest clauses = .ok text) :
    upToEnd 0 text.toList = [] := by
  cases clauses with
  | nil =>
      cases made
      rfl
  | cons c rest =>
      rw [renderRest_cons] at made
      obtain ⟨join, tail, required, -, rfl⟩ := followedBy_eq_ok made
      rcases requiredJoin_cases required with ⟨-, rfl⟩ | ⟨-, rfl⟩
      · rw [String.toList_append]
        exact if_pos ⟨rfl, .inl rfl⟩
      · rw [String.toList_append]
        exact if_pos ⟨rfl, .inl rfl⟩

theorem start_of_clause {c : Clause} (clean : CleanLeaves c.leaves)
    (made : renderClause c = .ok text) :
    ∃ first rest, text.toList = first :: rest ∧ first ≠ '*' := by
  cases c with
  | leaf f =>
      obtain ⟨plain, usual⟩ := clean f List.mem_cons_self
      rcases start_of_fragment plain usual made with ⟨first, rest, start, -, other⟩ | ⟨rest, start⟩
      · exact ⟨first, rest, start, other⟩
      · exact ⟨'(', _, start, by decide⟩
  | group opener clauses =>
      obtain ⟨inner, -, rfl⟩ := group_eq_ok made
      exact ⟨'(', _, toList_parenthesized inner, by decide⟩

/-- No fragment is written like a group: its star stands where a clause would start. -/
theorem leaf_ne_group {f opener : Filter} {clauses : List Clause}
    (clean : CleanLeaves (Clause.leaf f).leaves) (tidy : CleanLeaves (leavesOf clauses))
    (made : renderClause (.leaf f) = .ok text)
    (grouped : renderClause (.group opener clauses) = .ok text) : False := by
  obtain ⟨inner, written, rfl⟩ := group_eq_ok grouped
  obtain ⟨plain, usual⟩ := clean f List.mem_cons_self
  have shape := toList_parenthesized inner
  rcases start_of_fragment plain usual made with ⟨first, rest, start, other, -⟩ | ⟨rest, start⟩
  · rw [start] at shape
    exact other (List.cons.inj shape).1
  · rw [start] at shape
    have second := (List.cons.inj shape).2
    cases clauses with
    | nil =>
        cases written
        cases second
    | cons c later =>
        rw [renderFirst_cons] at written
        obtain ⟨front, tail, head, -, rfl⟩ := followedBy_eq_ok written
        obtain ⟨first, behind, starts, other⟩ := start_of_clause tidy.left head
        rw [String.toList_append, starts] at second
        exact other (List.cons.inj second).1.symm

theorem first_ne_empty {c : Clause} {rest : List Clause} (clean : CleanLeaves c.leaves)
    (made : renderFirst (c :: rest) = .ok text) : text ≠ "" := by
  rw [renderFirst_cons] at made
  obtain ⟨front, tail, head, -, rfl⟩ := followedBy_eq_ok made
  obtain ⟨first, behind, starts, -⟩ := start_of_clause clean head
  intro empty
  have none := congrArg String.toList empty
  rw [String.toList_append, starts] at none
  cases none

theorem rest_ne_empty {c : Clause} {rest : List Clause}
    (made : renderRest (c :: rest) = .ok text) : text ≠ "" := by
  rw [renderRest_cons] at made
  obtain ⟨front, tail, required, -, rfl⟩ := followedBy_eq_ok made
  intro empty
  have none := congrArg String.toList empty
  rw [String.toList_append] at none
  rcases requiredJoin_cases required with ⟨-, rfl⟩ | ⟨-, rfl⟩ <;> cases none

theorem clause_unique {c d : Clause} {rest later : List Clause} {first second after behind : String}
    (clean : CleanLeaves c.leaves) (tidy : CleanLeaves d.leaves)
    (made : renderClause c = .ok first) (others : renderRest rest = .ok after)
    (written : renderClause d = .ok second) (remaining : renderRest later = .ok behind)
    (same : first ++ after = second ++ behind) : first = second ∧ after = behind := by
  have lists := congrArg String.toList same
  rw [String.toList_append, String.toList_append] at lists
  obtain ⟨front, back⟩ := (passes_clause clean made 0).unique (passes_clause tidy written 0)
    (ends_of_rest others) (ends_of_rest remaining) lists
  exact ⟨String.toList_inj.mp front, String.toList_inj.mp back⟩

theorem join_unique {join' : Option Join} {id' first second after behind : String}
    (required : requiredJoin id join = .ok first) (asked : requiredJoin id' join' = .ok second)
    (same : first ++ after = second ++ behind) : join = join' ∧ after = behind := by
  have lists := congrArg String.toList same
  rw [String.toList_append, String.toList_append] at lists
  rcases requiredJoin_cases required with ⟨rfl, rfl⟩ | ⟨rfl, rfl⟩ <;>
    rcases requiredJoin_cases asked with ⟨rfl, rfl⟩ | ⟨rfl, rfl⟩
  · exact ⟨rfl, String.toList_inj.mp (List.append_cancel_left lists)⟩
  · cases lists
  · cases lists
  · exact ⟨rfl, String.toList_inj.mp (List.append_cancel_left lists)⟩

end Wholes

/-! ## The tree of a text -/

mutual

theorem alike_of_text : (c d : Clause) → CleanLeaves c.leaves → CleanLeaves d.leaves →
    ∀ {text : String}, renderClause c = .ok text → renderClause d = .ok text → c.Alike d
  | .leaf _, .leaf _, _, _, _, made, written => .leaf made written
  | .leaf _, .group _ _, clean, tidy, _, made, written => (leaf_ne_group clean tidy made written).elim
  | .group _ _, .leaf _, clean, tidy, _, made, written => (leaf_ne_group tidy clean written made).elim
  | .group _ clauses, .group _ others, clean, tidy, _, made, written => by
      obtain ⟨inner, within, rfl⟩ := group_eq_ok made
      obtain ⟨other, among, same⟩ := group_eq_ok written
      rw [String.append_left_inj, String.append_right_inj] at same
      subst same
      exact .group (alike_of_first clauses others clean tidy within among)

theorem alike_of_first : (clauses others : List Clause) → CleanLeaves (leavesOf clauses) →
    CleanLeaves (leavesOf others) → ∀ {text : String}, renderFirst clauses = .ok text →
    renderFirst others = .ok text → AlikeFirst clauses others
  | [], [], _, _, _, _, _ => .nil
  | [], _ :: _, _, tidy, _, made, written =>
      (first_ne_empty tidy.left written (Except.ok.inj made).symm).elim
  | _ :: _, [], clean, _, _, made, written =>
      (first_ne_empty clean.left made (Except.ok.inj written).symm).elim
  | c :: rest, d :: more, clean, tidy, _, made, written => by
      rw [renderFirst_cons] at made written
      obtain ⟨first, after, here, others, rfl⟩ := followedBy_eq_ok made
      obtain ⟨second, behind, there, remaining, same⟩ := followedBy_eq_ok written
      obtain ⟨rfl, rfl⟩ := clause_unique clean.left tidy.left here others there remaining same
      exact .cons (alike_of_text c d clean.left tidy.left here there)
        (alike_of_rest rest more clean.right tidy.right others remaining)

theorem alike_of_rest : (clauses others : List Clause) → CleanLeaves (leavesOf clauses) →
    CleanLeaves (leavesOf others) → ∀ {text : String}, renderRest clauses = .ok text →
    renderRest others = .ok text → AlikeRest clauses others
  | [], [], _, _, _, _, _ => .nil
  | [], _ :: _, _, _, _, made, written =>
      (rest_ne_empty written (Except.ok.inj made).symm).elim
  | _ :: _, [], _, _, _, made, written =>
      (rest_ne_empty made (Except.ok.inj written).symm).elim
  | c :: rest, d :: more, clean, tidy, _, made, written => by
      rw [renderRest_cons] at made written
      obtain ⟨join, tail, required, clauses, rfl⟩ := followedBy_eq_ok made
      obtain ⟨other, end', asked, sequence, same⟩ := followedBy_eq_ok written
      obtain ⟨joined, rfl⟩ := join_unique required asked same
      obtain ⟨first, after, here, others, rfl⟩ := followedBy_eq_ok clauses
      obtain ⟨second, behind, there, remaining, same⟩ := followedBy_eq_ok sequence
      obtain ⟨rfl, rfl⟩ := clause_unique clean.left tidy.left here others there remaining same
      exact .cons joined (alike_of_text c d clean.left tidy.left here there)
        (alike_of_rest rest more clean.right tidy.right others remaining)

end

theorem cleanLeaves_of_build {filters : List Filter} {tree : List Clause}
    (clean : ∀ f ∈ filters, f.kind ≠ .grouping → f.Clean) (built : build filters = .ok tree) :
    CleanLeaves (leavesOf tree) := by
  intro f member
  rcases leaves_of_buildFrom built member with here | ⟨group, held, -⟩ | ⟨among, plain⟩
  · cases here
  · cases held
  · exact ⟨plain, clean f among plain⟩

theorem build_of_compile {filters : List Filter} {q : String}
    (compiled : compile .structured filters = .ok q) :
    ∃ tree, build filters = .ok tree ∧ renderFirst tree = .ok q := by
  cases built : build filters with
  | error e =>
      rw [compile_structured_of_fault built] at compiled
      cases compiled
  | ok tree =>
      rw [compile_structured_of_build built, ← renderFirst_eq_scan built] at compiled
      exact ⟨tree, rfl, compiled⟩

/-- Two lists with the same query, of fields and values made of the usual characters, have
trees of the same shape, with the same fragments and the same joins. -/
theorem alike_of_compile_structured {filters others : List Filter} {q : String}
    (clean : ∀ f ∈ filters, f.kind ≠ .grouping → f.Clean)
    (tidy : ∀ f ∈ others, f.kind ≠ .grouping → f.Clean)
    (compiled : compile .structured filters = .ok q)
    (again : compile .structured others = .ok q) :
    ∃ tree other, build filters = .ok tree ∧ build others = .ok other ∧ AlikeFirst tree other := by
  obtain ⟨tree, built, made⟩ := build_of_compile compiled
  obtain ⟨other, founded, written⟩ := build_of_compile again
  exact ⟨tree, other, built, founded, alike_of_first tree other (cleanLeaves_of_build clean built)
    (cleanLeaves_of_build tidy founded) made written⟩

/-- A text to be cleaned, a date in another form, and a number of the other kind. -/
theorem alike_of_two_lists : ∃ tree other,
    build [⟨"1", "", .grouping, none, "(", none⟩,
      ⟨"2", "title", .text, some .equals, "a_val_b", none⟩,
      ⟨"3", "day", .date, some .lessThan, "2020-1-31", some .either⟩,
      ⟨"4", "", .grouping, none, ")", none⟩,
      ⟨"5", "kind", .number, some .equals, "1", some .both⟩] = .ok tree ∧
    build [⟨"6", "", .grouping, none, "(", some .either⟩,
      ⟨"7", "title", .combo, some .equals, "ab", some .both⟩,
      ⟨"8", "day", .date, some .lessThan, "2020-01-31T10:00:00Z", some .either⟩,
      ⟨"9", "", .grouping, none, ")", none⟩,
      ⟨"10", "kind", .integer, some .equals, "1", some .both⟩] = .ok other ∧
    AlikeFirst tree other :=
  alike_of_compile_structured
    (q := "(title:(ab) OR day:[* TO 2020-01-31T00:00:00Z]) AND kind:\"1\"")
    (by decide) (by decide) (by rfl) (by rfl)

end IndexExport.Filter
