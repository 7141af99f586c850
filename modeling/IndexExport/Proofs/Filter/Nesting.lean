import IndexExport.Proofs.Filter.Balance
/-!
# Lists of filters and their trees

A list has a clause tree if its parentheses match, and then exactly one: the tree whose marks
are those of the list. Otherwise the first filter that does not fit is to blame, and where all
of them fit, the last group that was not closed.

`Reaches` describes what has been read of a list in terms of the list: the open groups and the
clauses in them have its marks, and there are as many open groups as counting says.
-/
set_option autoImplicit false

namespace IndexExport.Filter

/-! ## From a tree back to its list -/

/-- A filter of the list, or the place of a closing parenthesis. -/
inductive Mark where
  | filter (f : Filter)
  | close
  deriving DecidableEq, Repr

mutual

def Clause.marks : Clause → List Mark
  | .leaf f => [.filter f]
  | .group opener clauses => .filter opener :: marksOf clauses ++ [.close]

def marksOf : List Clause → List Mark
  | [] => []
  | c :: rest => c.marks ++ marksOf rest

end

def markOf (f : Filter) : Mark :=
  if f.closesGroup then .close else .filter f

/-! ## Counting -/

def openGroups (filters : List Filter) : Nat :=
  filters.countP opensGroup - filters.countP closesGroup

/-- What is wrong with a filter that stands inside `depth` groups. -/
def misfit (depth : Nat) (f : Filter) : Option Failure :=
  if f.kind ≠ .grouping ∨ f.opensGroup = true then none
  else if f.closesGroup = false then some (.invalidGrouping f.id f.value)
  else if depth = 0 then some (.unbalancedGrouping f.id)
  else none

/-- Nothing is wrong with any filter of the list. -/
def Fits (filters : List Filter) : Prop :=
  ∀ before f rest, filters = before ++ f :: rest → misfit (openGroups before) f = none

/-- A group that was opened in front of the filters is closed by one of them. -/
def ClosedIn (filters : List Filter) : Prop :=
  ∃ start, start <+: filters ∧ start.countP opensGroup < start.countP closesGroup

/-- Of the groups that are not closed, `f` opens the last one. -/
structure LastOpen (f : Filter) (rest : List Filter) : Prop where
  opens : f.opensGroup = true
  stays : ¬ClosedIn rest
  last : ∀ between g behind, rest = between ++ g :: behind → g.opensGroup = true → ClosedIn behind

section Counting

variable {before rest other filters : List Filter} {f : Filter} {depth : Nat}

theorem misfit_eq_none (fits : misfit depth f = none) :
    f.kind ≠ .grouping ∨ f.opensGroup = true ∨ (f.closesGroup = true ∧ depth ≠ 0) := by
  rw [misfit] at fits
  split_ifs at fits with joins other outside
  · exact joins.imp_right .inl
  · exact .inr (.inr ⟨by simpa using other, outside⟩)

theorem fits_concat :
    Fits (before ++ [f]) ↔ Fits before ∧ misfit (openGroups before) f = none := by
  constructor
  · intro fits
    refine ⟨?_, fits before f [] rfl⟩
    rintro early g late rfl
    exact fits early g (late ++ [f]) (by simp)
  · rintro ⟨fits, last⟩ early g late split
    rcases List.eq_nil_or_concat late with rfl | ⟨late, h, rfl⟩
    · obtain ⟨rfl, same⟩ := List.append_inj' split rfl
      obtain ⟨rfl, -⟩ := List.cons.inj same
      exact last
    · rw [List.concat_eq_append, ← List.cons_append, ← List.append_assoc] at split
      exact fits early g late (List.append_inj' split rfl).1

theorem fits_nil : Fits [] := by
  intro before f rest split
  simp at split

/-- By induction on the list from its end. -/
theorem fits_or_misfit (filters : List Filter) :
    Fits filters ∨ ∃ before f rest e, filters = before ++ f :: rest ∧ Fits before ∧
      misfit (openGroups before) f = some e := by
  induction filters using List.reverseRecOn with
  | nil => exact .inl fits_nil
  | append_singleton filters f ih =>
      rcases ih with fits | ⟨before, g, rest, e, rfl, fits, wrong⟩
      · cases here : misfit (openGroups filters) f with
        | none => exact .inl (fits_concat.mpr ⟨fits, here⟩)
        | some e => exact .inr ⟨filters, f, [], e, rfl, fits, here⟩
      · exact .inr ⟨before, g, rest ++ [f], e, by simp, fits, wrong⟩

/-- Only one filter opens the last group that is not closed. -/
theorem LastOpen.unique {g : Filter} (first : LastOpen f rest) (second : LastOpen g other)
    (split : before ++ f :: rest = filters ++ g :: other) : f = g := by
  rcases List.append_eq_append_iff.mp split with ⟨between, -, rest'⟩ | ⟨between, -, other'⟩
  · cases between with
    | nil => exact (List.cons.inj rest').1
    | cons h between =>
        obtain ⟨-, later⟩ := List.cons.inj rest'
        exact absurd (first.last between g other later second.opens) second.stays
  · cases between with
    | nil => exact (List.cons.inj other').1.symm
    | cons h between =>
        obtain ⟨-, later⟩ := List.cons.inj other'
        exact absurd (second.last between f rest later first.opens) first.stays

end Counting

/-! ## Proper trees -/

/-- Leaves are no parentheses, and groups start with an opening one. -/
inductive Clause.Proper : Clause → Prop
  | leaf {f : Filter} (plain : f.kind ≠ .grouping) : Clause.Proper (.leaf f)
  | group {opener : Filter} {clauses : List Clause} (opens : opener.opensGroup = true)
      (within : ∀ c ∈ clauses, Clause.Proper c) : Clause.Proper (.group opener clauses)

section Trees

variable {f opener : Filter} {clauses others : List Clause} {c : Clause} {filters rest : List Filter}
  {stack : List OpenGroup}

theorem closesGroup_of_plain (plain : f.kind ≠ .grouping) : f.closesGroup = false := by
  simp [closesGroup, plain]

theorem opensGroup_of_plain (plain : f.kind ≠ .grouping) : f.opensGroup = false := by
  simp [opensGroup, plain]

theorem opensGroup_of_closesGroup (closes : f.closesGroup = true) : f.opensGroup = false := by
  cases opens : f.opensGroup with
  | false => rfl
  | true =>
      rw [not_closesGroup_of_opensGroup opens] at closes
      cases closes

theorem markOf_of_stays (stays : f.closesGroup = false) : markOf f = .filter f := by
  simp [markOf, stays]

theorem markOf_of_closes (closes : f.closesGroup = true) : markOf f = .close := by
  simp [markOf, closes]

theorem eq_of_markOf (same : markOf f = .filter opener) : f = opener := by
  rw [markOf] at same
  split_ifs at same
  exact Mark.filter.inj same

theorem closes_of_markOf (same : markOf f = .close) : f.closesGroup = true := by
  rw [markOf] at same
  split_ifs at same with closes
  exact closes

theorem marksOf_append (clauses others : List Clause) :
    marksOf (clauses ++ others) = marksOf clauses ++ marksOf others := by
  induction clauses with
  | nil => rfl
  | cons c rest ih => rw [List.cons_append, marksOf, ih, marksOf, List.append_assoc]

/-- The list of a group is its opening filter, the list of its clauses and a closing filter. -/
theorem split_of_group_marks (same : filters.map markOf = (Clause.group opener clauses).marks) :
    ∃ inner closer, filters = opener :: inner ++ [closer] ∧ inner.map markOf = marksOf clauses ∧
      closer.closesGroup = true := by
  rw [Clause.marks] at same
  obtain ⟨front, back, rfl, fronts, backs⟩ := List.map_eq_append_iff.mp same
  obtain ⟨first, inner, rfl, opening, within⟩ := List.map_eq_cons_iff.mp fronts
  obtain ⟨closer, rfl, closing⟩ := List.map_eq_singleton_iff.mp backs
  exact ⟨inner, closer, by rw [eq_of_markOf opening], within, closes_of_markOf closing⟩

theorem split_of_leaf_marks (same : filters.map markOf = (Clause.leaf f).marks) :
    filters = [f] := by
  obtain ⟨g, rfl, mark⟩ := List.map_eq_singleton_iff.mp same
  rw [eq_of_markOf mark]

mutual

/-- The filters of a proper clause are read as that clause, whatever is open. -/
theorem buildFrom_marks : (c : Clause) → c.Proper → ∀ {filters rest : List Filter}
    {stack : List OpenGroup} {before : List Clause}, filters.map markOf = c.marks →
    buildFrom stack before (filters ++ rest) = buildFrom stack (c :: before) rest
  | .leaf f, .leaf plain, _, rest, stack, before, same => by
      rw [split_of_leaf_marks same, List.singleton_append, buildFrom_cons_eq, if_pos plain]
  | .group opener clauses, .group opens within, _, rest, stack, before, same => by
      obtain ⟨inner, closer, rfl, inside, closes⟩ := split_of_group_marks same
      have opening : ¬opener.kind ≠ .grouping := not_not.mpr ((opensGroup_iff opener).mp opens).1
      have closing : ¬closer.kind ≠ .grouping := not_not.mpr ((closesGroup_iff closer).mp closes).1
      have shut : ¬closer.opensGroup = true := ne_true_of_eq_false (opensGroup_of_closesGroup closes)
      have order : opener :: inner ++ [closer] ++ rest = opener :: (inner ++ closer :: rest) := by simp
      rw [order, buildFrom_cons_eq, if_neg opening, if_pos opens,
        buildFrom_all_marks clauses within inside, List.append_nil, buildFrom_cons_eq,
        if_neg closing, if_neg shut, if_pos closes, List.reverse_reverse]

theorem buildFrom_all_marks : (clauses : List Clause) → (∀ c ∈ clauses, c.Proper) →
    ∀ {filters rest : List Filter} {stack : List OpenGroup} {before : List Clause},
    filters.map markOf = marksOf clauses →
    buildFrom stack before (filters ++ rest) = buildFrom stack (clauses.reverse ++ before) rest
  | [], _, _, _, _, _, same => by
      rw [List.map_eq_nil_iff.mp same]
      rfl
  | c :: clauses, proper, _, rest, stack, before, same => by
      obtain ⟨front, back, rfl, fronts, backs⟩ := List.map_eq_append_iff.mp same
      rw [List.append_assoc, buildFrom_marks c (proper c List.mem_cons_self) fronts,
        buildFrom_all_marks clauses (fun d member => proper d (List.mem_cons_of_mem c member)) backs,
        List.reverse_cons, List.append_assoc, List.singleton_append]

end

/-! ## The parentheses of a tree -/

def parentheses (filters : List Filter) : List Char :=
  filters.flatMap fun f =>
    if f.opensGroup then ['('] else if f.closesGroup then [')'] else []

theorem parentheses_append (filters rest : List Filter) :
    parentheses (filters ++ rest) = parentheses filters ++ parentheses rest :=
  List.flatMap_append

theorem count_parentheses (filters : List Filter) :
    (parentheses filters).count '(' = filters.countP opensGroup ∧
      (parentheses filters).count ')' = filters.countP closesGroup := by
  induction filters with
  | nil => exact ⟨rfl, rfl⟩
  | cons f rest ih =>
      have split : parentheses (f :: rest) = parentheses [f] ++ parentheses rest :=
        parentheses_append [f] rest
      rw [split, List.count_append, List.count_append, ih.1, ih.2, List.countP_cons, List.countP_cons]
      cases opens : f.opensGroup with
      | true =>
          have shut := not_closesGroup_of_opensGroup opens
          constructor <;> simp [parentheses, opens, shut, Nat.add_comm]
      | false =>
          cases closes : f.closesGroup <;> constructor <;>
            simp [parentheses, opens, closes, Nat.add_comm]

mutual

theorem balanced_of_marks : (c : Clause) → c.Proper → ∀ {filters : List Filter},
    filters.map markOf = c.marks → Balanced (parentheses filters)
  | .leaf f, .leaf plain, _, same => by
      rw [split_of_leaf_marks same]
      simp [parentheses, opensGroup_of_plain plain, closesGroup_of_plain plain, balanced_nil]
  | .group opener clauses, .group opens within, _, same => by
      obtain ⟨inner, closer, rfl, inside, closes⟩ := split_of_group_marks same
      have shut := opensGroup_of_closesGroup closes
      have around :
          parentheses (opener :: inner ++ [closer]) = '(' :: (parentheses inner ++ [')']) := by
        simp [parentheses, opens, closes, shut]
      rw [around]
      exact (balanced_of_all_marks clauses within inside).parenthesized

theorem balanced_of_all_marks : (clauses : List Clause) → (∀ c ∈ clauses, c.Proper) →
    ∀ {filters : List Filter}, filters.map markOf = marksOf clauses →
    Balanced (parentheses filters)
  | [], _, _, same => by
      rw [List.map_eq_nil_iff.mp same]
      exact balanced_nil
  | c :: clauses, proper, _, same => by
      obtain ⟨front, back, rfl, fronts, backs⟩ := List.map_eq_append_iff.mp same
      rw [parentheses_append]
      exact (balanced_of_marks c (proper c List.mem_cons_self) fronts).append
        (balanced_of_all_marks clauses (fun d member => proper d (List.mem_cons_of_mem c member)) backs)

end

/-- What follows a group that is not closed, and closes all groups that it opens. -/
theorem lastOpen_of_balanced (opens : f.opensGroup = true)
    (balanced : Balanced (parentheses rest)) : LastOpen f rest where
  opens := opens
  stays := by
    rintro ⟨start, ⟨behind, rfl⟩, closed⟩
    have counted := balanced.starts (parentheses start) (by simp [parentheses_append])
    rw [(count_parentheses start).1, (count_parentheses start).2] at counted
    omega
  last := by
    rintro between g behind rfl opening
    refine ⟨behind, List.prefix_rfl, ?_⟩
    have before := balanced.starts (parentheses between) (by simp [parentheses_append])
    have whole := balanced.whole
    have shut := not_closesGroup_of_opensGroup opening
    rw [(count_parentheses between).1, (count_parentheses between).2] at before
    rw [(count_parentheses _).1, (count_parentheses _).2] at whole
    simp only [List.countP_append, List.countP_cons, opening, shut, if_true] at whole
    simp at whole
    omega

end Trees

/-! ## What has been read -/

/-- The marks of the open groups, the innermost first, and of the clauses in the last one. -/
def openMarks : List OpenGroup → List Clause → List Mark
  | [], clauses => marksOf clauses.reverse
  | (opener, around) :: outer, clauses =>
    openMarks outer around ++ .filter opener :: marksOf clauses.reverse

theorem openMarks_cons (stack : List OpenGroup) (clauses : List Clause) (c : Clause) :
    openMarks stack (c :: clauses) = openMarks stack clauses ++ c.marks := by
  cases stack <;> simp [openMarks, marksOf_append, marksOf]

/-- After the filters `before` these groups are open, with these clauses in the innermost one. -/
structure Reaches (before : List Filter) (stack : List OpenGroup) (clauses : List Clause) :
    Prop where
  goesOn : ∀ rest, build (before ++ rest) = buildFrom stack clauses rest
  marks : before.map markOf = openMarks stack clauses
  depth : before.countP opensGroup = before.countP closesGroup + stack.length
  proper : ∀ c ∈ clauses, c.Proper
  around : ∀ group ∈ stack, group.1.opensGroup = true ∧ ∀ c ∈ group.2, c.Proper

section Reaches

variable {before filters : List Filter} {stack : List OpenGroup} {clauses : List Clause} {f : Filter}
  {e : Failure}

theorem reaches_start : Reaches [] [] [] where
  goesOn _ := rfl
  marks := rfl
  depth := rfl
  proper := by simp
  around := by simp

theorem Reaches.openGroups_eq (reaches : Reaches before stack clauses) :
    openGroups before = stack.length := by
  have counted := reaches.depth
  rw [openGroups]
  omega

/-- One more filter, if it fits. -/
theorem Reaches.next (reaches : Reaches before stack clauses)
    (fits : misfit stack.length f = none) :
    ∃ deeper more, Reaches (before ++ [f]) deeper more := by
  have onward : ∀ rest, build (before ++ [f] ++ rest) = buildFrom stack clauses (f :: rest) := by
    intro rest
    rw [List.append_assoc, List.singleton_append, reaches.goesOn]
  have counted := reaches.depth
  rcases misfit_eq_none fits with plain | opens | ⟨closes, inside⟩
  · have shut := opensGroup_of_plain plain
    have stays := closesGroup_of_plain plain
    refine ⟨stack, .leaf f :: clauses, ?_, ?_, ?_, ?_, reaches.around⟩
    · intro rest
      rw [onward, buildFrom_cons_eq, if_pos plain]
    · rw [List.map_append, reaches.marks, openMarks_cons, List.map_singleton, markOf_of_stays stays,
        Clause.marks]
    · simp [shut, stays, counted]
    · exact List.forall_mem_cons.mpr ⟨.leaf plain, reaches.proper⟩
  · have stays := not_closesGroup_of_opensGroup opens
    have grouping : ¬f.kind ≠ .grouping := not_not.mpr ((opensGroup_iff f).mp opens).1
    refine ⟨(f, clauses) :: stack, [], ?_, ?_, ?_, by simp, ?_⟩
    · intro rest
      rw [onward, buildFrom_cons_eq, if_neg grouping, if_pos opens]
    · rw [List.map_append, reaches.marks, List.map_singleton, markOf_of_stays stays]
      rfl
    · simp [opens, stays, counted, Nat.add_assoc]
    · exact List.forall_mem_cons.mpr ⟨⟨opens, reaches.proper⟩, reaches.around⟩
  · have shut := opensGroup_of_closesGroup closes
    have grouping : ¬f.kind ≠ .grouping := not_not.mpr ((closesGroup_iff f).mp closes).1
    cases stack with
    | nil => exact absurd rfl inside
    | cons group outer =>
        obtain ⟨opener, around⟩ := group
        obtain ⟨⟨opening, kept⟩, outside⟩ := List.forall_mem_cons.mp reaches.around
        refine ⟨outer, .group opener clauses.reverse :: around, ?_, ?_, ?_, ?_, outside⟩
        · intro rest
          rw [onward, buildFrom_cons_eq, if_neg grouping, if_neg (ne_true_of_eq_false shut),
            if_pos closes]
        · rw [List.map_append, reaches.marks, openMarks_cons, List.map_singleton,
            markOf_of_closes closes, Clause.marks, openMarks]
          simp
        · rw [List.length_cons] at counted
          simp only [List.countP_append, List.countP_singleton, shut, closes, if_true]
          simp
          omega
        · have within : ∀ c ∈ clauses.reverse, c.Proper := fun c member =>
            reaches.proper c (List.mem_reverse.mp member)
          exact List.forall_mem_cons.mpr ⟨.group opening within, kept⟩

/-- By induction on the list from its end. -/
theorem reaches_of_fits (fits : Fits before) : ∃ stack clauses, Reaches before stack clauses := by
  induction before using List.reverseRecOn with
  | nil => exact ⟨[], [], reaches_start⟩
  | append_singleton before f ih =>
      obtain ⟨ahead, last⟩ := fits_concat.mp fits
      obtain ⟨stack, clauses, reaches⟩ := ih ahead
      rw [reaches.openGroups_eq] at last
      exact reaches.next last

theorem Reaches.build_eq (reaches : Reaches before stack clauses) :
    build before = buildFrom stack clauses [] := by
  simpa using reaches.goesOn []

/-- The group that is open innermost was opened last and is not closed. -/
theorem Reaches.lastOpen {opener : Filter} {around : List Clause} {outer : List OpenGroup}
    (reaches : Reaches filters ((opener, around) :: outer) clauses) :
    ∃ before rest, filters = before ++ opener :: rest ∧ LastOpen opener rest := by
  have marks := reaches.marks
  rw [openMarks] at marks
  obtain ⟨before, back, rfl, -, backs⟩ := List.map_eq_append_iff.mp marks
  obtain ⟨first, rest, rfl, opening, within⟩ := List.map_eq_cons_iff.mp backs
  have opens := (reaches.around _ List.mem_cons_self).1
  have proper : ∀ c ∈ clauses.reverse, c.Proper := fun c member =>
    reaches.proper c (List.mem_reverse.mp member)
  exact ⟨before, rest, by rw [eq_of_markOf opening],
    lastOpen_of_balanced opens (balanced_of_all_marks _ proper within)⟩

theorem build_of_misfit (fits : Fits before) (wrong : misfit (openGroups before) f = some e)
    (rest : List Filter) : build (before ++ f :: rest) = .error e := by
  obtain ⟨stack, clauses, reaches⟩ := reaches_of_fits fits
  rw [reaches.openGroups_eq, misfit] at wrong
  rw [reaches.goesOn, buildFrom_cons_eq]
  split_ifs at wrong with joins other outside
  · obtain ⟨grouping, shut⟩ := not_or.mp joins
    rw [if_neg grouping, if_neg shut, if_neg (ne_true_of_eq_false other), Option.some.inj wrong]
  · obtain ⟨grouping, shut⟩ := not_or.mp joins
    rw [List.length_eq_zero_iff.mp outside, if_neg grouping, if_neg shut,
      if_pos (by simpa using other), Option.some.inj wrong]

/-- A list of filters that fit has its tree if no group is open at its end, and is refused for
the last one that is. -/
theorem build_of_fits (fits : Fits filters) :
    (openGroups filters = 0 ∧ ∃ tree, build filters = .ok tree ∧ (∀ c ∈ tree, c.Proper) ∧
      marksOf tree = filters.map markOf) ∨
    (0 < openGroups filters ∧ ∃ before f rest, filters = before ++ f :: rest ∧ LastOpen f rest ∧
      build filters = .error (.unbalancedGrouping f.id)) := by
  obtain ⟨stack, clauses, reaches⟩ := reaches_of_fits fits
  rw [reaches.openGroups_eq, reaches.build_eq]
  cases stack with
  | nil =>
      refine .inl ⟨rfl, clauses.reverse, rfl, ?_, reaches.marks.symm⟩
      exact fun c member => reaches.proper c (List.mem_reverse.mp member)
  | cons group outer =>
      obtain ⟨before, rest, split, last⟩ := reaches.lastOpen
      exact .inr ⟨Nat.succ_pos _, before, group.1, rest, split, last, rfl⟩

end Reaches

/-! ## Trees and faults -/

/-- What is wrong with the parentheses of a list, given the filters that opened the groups
around it, the innermost first. -/
def faultFrom : List Filter → List Filter → Option Failure
  | [], [] => none
  | opener :: _, [] => some (.unbalancedGrouping opener.id)
  | openers, f :: rest =>
    if f.kind ≠ .grouping then faultFrom openers rest
    else if f.value = "(" then faultFrom (f :: openers) rest
    else if f.value = ")" then
      match openers with
      | [] => some (.unbalancedGrouping f.id)
      | _ :: outer => faultFrom outer rest
    else some (.invalidGrouping f.id f.value)

def firstFault (filters : List Filter) : Option Failure :=
  faultFrom [] filters

theorem faultFrom_cons (openers : List Filter) (f : Filter) (rest : List Filter) :
    faultFrom openers (f :: rest) =
      if f.kind ≠ .grouping then faultFrom openers rest
      else if f.opensGroup then faultFrom (f :: openers) rest
      else if f.closesGroup then
        match openers with
        | [] => some (.unbalancedGrouping f.id)
        | _ :: outer => faultFrom outer rest
      else some (.invalidGrouping f.id f.value) := by
  by_cases grouping : f.kind = .grouping <;>
    cases openers <;> simp [faultFrom, opensGroup, closesGroup, grouping]

theorem faultFrom_eq_some_iff (stack : List OpenGroup) (clauses : List Clause)
    (filters : List Filter) (e : Failure) :
    faultFrom (stack.map Prod.fst) filters = some e ↔ buildFrom stack clauses filters = .error e := by
  induction filters generalizing stack clauses with
  | nil => cases stack <;> simp [faultFrom, buildFrom]
  | cons f rest ih =>
      rw [faultFrom_cons, buildFrom_cons_eq]
      split_ifs with plain opens closes
      · exact ih stack (.leaf f :: clauses)
      · exact ih ((f, clauses) :: stack) []
      · cases stack with
        | nil => simp
        | cons group outer => exact ih outer (.group group.1 clauses.reverse :: group.2)
      · simp

/-- The filters that opened the groups are enough to find what is wrong with a list. -/
theorem firstFault_eq_some_iff (filters : List Filter) (e : Failure) :
    firstFault filters = some e ↔ build filters = .error e :=
  faultFrom_eq_some_iff [] [] filters e

theorem fits_of_build {filters : List Filter} {tree : List Clause}
    (built : build filters = .ok tree) : Fits filters := by
  rcases fits_or_misfit filters with fits | ⟨before, f, rest, e, rfl, fits, wrong⟩
  · exact fits
  · rw [build_of_misfit fits wrong] at built
    cases built

theorem build_eq_ok_iff (filters : List Filter) (tree : List Clause) :
    build filters = .ok tree ↔ (∀ c ∈ tree, c.Proper) ∧ marksOf tree = filters.map markOf := by
  constructor
  · intro built
    rcases build_of_fits (fits_of_build built) with ⟨-, other, found, proper, marks⟩ |
      ⟨-, before, f, rest, -, -, refused⟩
    · rw [found] at built
      cases built
      exact ⟨proper, marks⟩
    · rw [refused] at built
      cases built
  · rintro ⟨proper, marks⟩
    have read : buildFrom [] [] (filters ++ []) = buildFrom [] (tree.reverse ++ []) [] :=
      buildFrom_all_marks tree proper marks.symm
    rw [List.append_nil, List.append_nil] at read
    rw [build, read, buildFrom, List.reverse_reverse]

theorem build_eq_error_iff (filters : List Filter) (e : Failure) :
    build filters = .error e ↔
      (∃ before f rest, filters = before ++ f :: rest ∧ Fits before ∧
        misfit (openGroups before) f = some e) ∨
      (Fits filters ∧ 0 < openGroups filters ∧ ∃ before f rest,
        filters = before ++ f :: rest ∧ LastOpen f rest ∧ e = .unbalancedGrouping f.id) := by
  constructor
  · intro refused
    rcases fits_or_misfit filters with fits | ⟨before, f, rest, e', rfl, fits, wrong⟩
    · rcases build_of_fits fits with
        ⟨-, tree, built, -⟩ | ⟨deep, before, f, rest, split, last, unclosed⟩
      · rw [built] at refused
        cases refused
      · rw [unclosed] at refused
        exact .inr ⟨fits, deep, before, f, rest, split, last, (Except.error.inj refused).symm⟩
    · rw [build_of_misfit fits wrong] at refused
      cases refused
      exact .inl ⟨before, f, rest, rfl, fits, wrong⟩
  · rintro (⟨before, f, rest, rfl, fits, wrong⟩ | ⟨fits, deep, before, f, rest, split, last, rfl⟩)
    · exact build_of_misfit fits wrong rest
    · rcases build_of_fits fits with ⟨level, -⟩ | ⟨-, ahead, g, behind, again, lastToo, unclosed⟩
      · omega
      · rw [unclosed, last.unique lastToo (split.symm.trans again)]

/-- Each list is refused for its first filter that does not fit, or for the last group that is
not closed if all of them fit, and else has a tree. The tree has the marks of the list, and no
other proper tree has them. -/
theorem build_matches_parentheses (filters : List Filter) :
    (∀ e, build filters = .error e ↔
      (∃ before f rest, filters = before ++ f :: rest ∧ Fits before ∧
        misfit (openGroups before) f = some e) ∨
      (Fits filters ∧ 0 < openGroups filters ∧ ∃ before f rest,
        filters = before ++ f :: rest ∧ LastOpen f rest ∧ e = .unbalancedGrouping f.id)) ∧
    ((∃ tree, build filters = .ok tree) ↔ Fits filters ∧ openGroups filters = 0) ∧
    ∀ tree, build filters = .ok tree ↔
      (∀ c ∈ tree, c.Proper) ∧ marksOf tree = filters.map markOf := by
  refine ⟨build_eq_error_iff filters, ⟨?_, ?_⟩, build_eq_ok_iff filters⟩
  · rintro ⟨tree, built⟩
    have fits := fits_of_build built
    rcases build_of_fits fits with ⟨level, -⟩ | ⟨-, before, f, rest, -, -, refused⟩
    · exact ⟨fits, level⟩
    · rw [refused] at built
      cases built
  · rintro ⟨fits, level⟩
    rcases build_of_fits fits with ⟨-, tree, built, -⟩ | ⟨deep, -⟩
    · exact ⟨tree, built⟩
    · omega

end IndexExport.Filter
