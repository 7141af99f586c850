import IndexExport.Filter.Compile
/-!
# Structured compilation as one pass

A list of filters whose parentheses match is compiled through its clause tree. The text
is the one that `scan` gives in a single pass over the list, and so is the failure, if there is
one. The pass has its own rules for operators, and `requiredJoin_eq_joinEmitted` says that the
tree is written by the same ones.

`opened stack clauses` is the text of what `buildFrom` has read so far: the groups that are
still open, each with the clauses before it, and the clauses of the innermost one. Every
filter adds to it what `scanFrom` adds to its own text. `emitted` says the same of a single
place of the list, without what stands before it.
-/
set_option autoImplicit false

namespace IndexExport.Filter

/-! ## The pass -/

/-- What a filter contributes beside its join. -/
def token (f : Filter) : Except Failure String :=
  if f.opensGroup then .ok "("
  else if f.closesGroup then .ok ")"
  else fragmentOrFail f

/-- The operator in front of a filter that needs one. -/
def joinEmitted (f : Filter) : Except Failure String :=
  match f.join with
  | some .both => .ok " AND "
  | some .either => .ok " OR "
  | some .unrecognized => .error (.unrecognizedJoin f.id)
  | none => .error (.missingJoin f.id)

/-- The join in front of a filter: none at the start, at a closing parenthesis, and after
an opening one. -/
def scanJoin (previous : Option Filter) (f : Filter) : Except Failure String :=
  match previous with
  | none => .ok ""
  | some p => if f.closesGroup || p.opensGroup then .ok "" else joinEmitted f

/-- The text of the filters after `previous`, or the first failure. -/
def scanFrom (previous : Option Filter) : List Filter → Except Failure String
  | [] => .ok ""
  | f :: rest =>
    match scanJoin previous f with
    | .error e => .error e
    | .ok join =>
      match token f with
      | .error e => .error e
      | .ok text =>
        match scanFrom (some f) rest with
        | .error e => .error e
        | .ok more => .ok (join ++ text ++ more)

/-- The text of a list by one pass over it. -/
def scan (filters : List Filter) : Except Failure String :=
  scanFrom none filters

/-! ## Texts in order -/

/-- A text and the one after it. The first failure stands for both. -/
def followedBy (first next : Except Failure String) : Except Failure String :=
  match first with
  | .error e => .error e
  | .ok text =>
    match next with
    | .error e => .error e
    | .ok more => .ok (text ++ more)

def inOrder : List (Except Failure String) → Except Failure String
  | [] => .ok ""
  | piece :: rest => followedBy piece (inOrder rest)

@[simp] theorem error_followedBy (e : Failure) (next : Except Failure String) :
    followedBy (.error e) next = .error e := rfl

@[simp] theorem ok_followedBy_ok (text more : String) :
    followedBy (.ok text) (.ok more) = .ok (text ++ more) := rfl

@[simp] theorem empty_followedBy (next : Except Failure String) :
    followedBy (.ok "") next = next := by
  cases next with
  | error e => rfl
  | ok more => simp

@[simp] theorem followedBy_empty (first : Except Failure String) :
    followedBy first (.ok "") = first := by
  cases first with
  | error e => rfl
  | ok text => simp

theorem followedBy_assoc (first second third : Except Failure String) :
    followedBy (followedBy first second) third =
      followedBy first (followedBy second third) := by
  cases first with
  | error e => rfl
  | ok text =>
      cases second with
      | error e => rfl
      | ok more =>
          cases third with
          | error e => rfl
          | ok last => simp [String.append_assoc]

theorem followedBy_eq_ok {first next : Except Failure String} {q : String}
    (whole : followedBy first next = .ok q) :
    ∃ text more, first = .ok text ∧ next = .ok more ∧ q = text ++ more := by
  cases first with
  | error e => cases whole
  | ok text =>
      cases next with
      | error e => cases whole
      | ok more => exact ⟨text, more, rfl, rfl, (Except.ok.inj whole).symm⟩

theorem inOrder_eq_ok_iff (pieces : List (Except Failure String)) (q : String) :
    inOrder pieces = .ok q ↔ ∃ texts, pieces = texts.map .ok ∧ q = String.join texts := by
  induction pieces generalizing q with
  | nil =>
      constructor
      · intro whole
        exact ⟨[], rfl, (Except.ok.inj whole).symm⟩
      · rintro ⟨texts, pieces, rfl⟩
        rw [List.map_eq_nil_iff.mp pieces.symm]
        rfl
  | cons piece rest ih =>
      constructor
      · intro whole
        obtain ⟨text, more, rfl, tail, rfl⟩ := followedBy_eq_ok whole
        obtain ⟨texts, rfl, rfl⟩ := (ih more).mp tail
        exact ⟨text :: texts, rfl, String.join_cons.symm⟩
      · rintro ⟨texts, pieces, rfl⟩
        cases texts with
        | nil => cases pieces
        | cons text texts =>
            obtain ⟨rfl, tail⟩ := List.cons.inj pieces
            rw [inOrder, (ih _).mpr ⟨texts, tail, rfl⟩, ok_followedBy_ok, String.join_cons]

theorem inOrder_eq_error_iff (pieces : List (Except Failure String)) (e : Failure) :
    inOrder pieces = .error e ↔
      ∃ (texts : List String) (rest : _), pieces = texts.map .ok ++ .error e :: rest := by
  induction pieces with
  | nil => simp [inOrder]
  | cons piece rest ih =>
      constructor
      · intro whole
        cases piece with
        | error e' =>
            cases whole
            exact ⟨[], rest, rfl⟩
        | ok text =>
            cases tail : inOrder rest with
            | ok more =>
                rw [inOrder, tail] at whole
                cases whole
            | error e' =>
                rw [inOrder, tail] at whole
                cases whole
                obtain ⟨texts, later, pieces⟩ := ih.mp tail
                exact ⟨text :: texts, later, by rw [pieces, List.map_cons, List.cons_append]⟩
      · rintro ⟨texts, later, pieces⟩
        cases texts with
        | nil =>
            obtain ⟨rfl, -⟩ := List.cons.inj pieces
            rfl
        | cons text texts =>
            obtain ⟨rfl, tail⟩ := List.cons.inj pieces
            rw [inOrder, ih.mpr ⟨texts, later, tail⟩]
            rfl

/-! ## The tree in order -/

theorem renderClause_group (opener : Filter) (clauses : List Clause) :
    renderClause (.group opener clauses) =
      followedBy (.ok "(") (followedBy (renderFirst clauses) (.ok ")")) := by
  rw [renderClause]
  cases renderFirst clauses with
  | error e => rfl
  | ok text => simp [String.append_assoc]

theorem renderFirst_cons (c : Clause) (rest : List Clause) :
    renderFirst (c :: rest) = followedBy (renderClause c) (renderRest rest) := by
  rw [renderFirst]
  cases renderClause c with
  | error e => rfl
  | ok text => cases renderRest rest <;> rfl

theorem renderRest_cons (c : Clause) (rest : List Clause) :
    renderRest (c :: rest) =
      followedBy (requiredJoin c.id c.join) (followedBy (renderClause c) (renderRest rest)) := by
  rw [renderRest]
  cases requiredJoin c.id c.join with
  | error e => rfl
  | ok join =>
      cases renderClause c with
      | error e => rfl
      | ok text =>
          cases renderRest rest with
          | error e => rfl
          | ok more => simp [String.append_assoc]

/-- The join in front of a filter that starts a clause, after the clauses `before` of the
same sequence. -/
def joinAfter (before : List Clause) (f : Filter) : Except Failure String :=
  if before = [] then .ok "" else requiredJoin f.id f.join

theorem renderRest_concat (clauses : List Clause) (c : Clause) :
    renderRest (clauses ++ [c]) =
      followedBy (renderRest clauses)
        (followedBy (requiredJoin c.id c.join) (renderClause c)) := by
  induction clauses with
  | nil => rw [List.nil_append, renderRest_cons, renderRest, empty_followedBy, followedBy_empty]
  | cons first rest ih =>
      rw [List.cons_append, renderRest_cons, ih, renderRest_cons]
      simp only [followedBy_assoc]

theorem renderFirst_reverse_cons (before : List Clause) (c : Clause) :
    renderFirst (c :: before).reverse =
      followedBy (renderFirst before.reverse)
        (followedBy (joinAfter before c.head) (renderClause c)) := by
  rw [List.reverse_cons]
  cases order : before.reverse with
  | nil =>
      have alone : before = [] := List.reverse_eq_nil_iff.mp order
      rw [List.nil_append, renderFirst_cons, renderRest, followedBy_empty, renderFirst,
        empty_followedBy, joinAfter, if_pos alone, empty_followedBy]
  | cons first rest =>
      have some_before : before ≠ [] := by
        rintro rfl
        cases order
      rw [List.cons_append, renderFirst_cons, renderRest_concat, renderFirst_cons, joinAfter,
        if_neg some_before, followedBy_assoc]
      rfl

/-! ## What has been read -/

/-- The text of the open groups, the innermost first, and of the clauses in the last one. -/
def opened : List OpenGroup → List Clause → Except Failure String
  | [], clauses => renderFirst clauses.reverse
  | (opener, before) :: outer, clauses =>
    followedBy (opened outer before)
      (followedBy (joinAfter before opener) (followedBy (.ok "(") (renderFirst clauses.reverse)))

theorem opened_cons (stack : List OpenGroup) (before : List Clause) (c : Clause) :
    opened stack (c :: before) =
      followedBy (opened stack before) (followedBy (joinAfter before c.head) (renderClause c)) := by
  cases stack with
  | nil => exact renderFirst_reverse_cons before c
  | cons group outer =>
      obtain ⟨opener, around⟩ := group
      simp only [opened, renderFirst_reverse_cons, followedBy_assoc]

theorem opened_open (stack : List OpenGroup) (before : List Clause) (f : Filter) :
    opened ((f, before) :: stack) [] =
      followedBy (opened stack before) (followedBy (joinAfter before f) (.ok "(")) := by
  rw [opened, List.reverse_nil, renderFirst, followedBy_empty]

theorem opened_close (opener : Filter) (before : List Clause) (outer : List OpenGroup)
    (clauses : List Clause) :
    opened outer (.group opener clauses.reverse :: before) =
      followedBy (opened ((opener, before) :: outer) clauses) (.ok ")") := by
  rw [opened_cons, renderClause_group, opened]
  simp only [Clause.head, followedBy_assoc]

/-! ## One filter more -/

theorem opensGroup_iff (f : Filter) :
    f.opensGroup = true ↔ f.kind = .grouping ∧ f.value = "(" := by
  simp [opensGroup]

theorem closesGroup_iff (f : Filter) :
    f.closesGroup = true ↔ f.kind = .grouping ∧ f.value = ")" := by
  simp [closesGroup]

/-- No filter opens and closes. -/
theorem not_closesGroup_of_opensGroup {f : Filter} (opens : f.opensGroup = true) :
    f.closesGroup = false := by
  have value := ((opensGroup_iff f).mp opens).2
  simp [closesGroup, value]

theorem buildFrom_nil {stack : List OpenGroup} {clauses tree : List Clause}
    (built : buildFrom stack clauses [] = .ok tree) : stack = [] ∧ tree = clauses.reverse := by
  cases stack with
  | nil => exact ⟨rfl, (Except.ok.inj built).symm⟩
  | cons group outer => cases built

theorem buildFrom_cons_eq (stack : List OpenGroup) (clauses : List Clause) (f : Filter)
    (rest : List Filter) :
    buildFrom stack clauses (f :: rest) =
      if f.kind ≠ .grouping then buildFrom stack (.leaf f :: clauses) rest
      else if f.opensGroup then buildFrom ((f, clauses) :: stack) [] rest
      else if f.closesGroup then
        match stack with
        | [] => .error (.unbalancedGrouping f.id)
        | (opener, before) :: outer =>
          buildFrom outer (.group opener clauses.reverse :: before) rest
      else .error (.invalidGrouping f.id f.value) := by
  cases stack <;> rfl

/-- All that one filter can do to a list that is well built. -/
theorem buildFrom_cons {stack : List OpenGroup} {clauses tree : List Clause} {f : Filter}
    {rest : List Filter} (built : buildFrom stack clauses (f :: rest) = .ok tree) :
    (f.kind ≠ .grouping ∧ buildFrom stack (.leaf f :: clauses) rest = .ok tree) ∨
    (f.opensGroup = true ∧ buildFrom ((f, clauses) :: stack) [] rest = .ok tree) ∨
    (f.closesGroup = true ∧ ∃ opener before outer, stack = (opener, before) :: outer ∧
      buildFrom outer (.group opener clauses.reverse :: before) rest = .ok tree) := by
  rw [buildFrom_cons_eq] at built
  by_cases plain : f.kind ≠ .grouping
  · rw [if_pos plain] at built
    exact .inl ⟨plain, built⟩
  · rw [if_neg plain] at built
    by_cases opens : f.opensGroup = true
    · rw [if_pos opens] at built
      exact .inr (.inl ⟨opens, built⟩)
    · rw [if_neg opens] at built
      by_cases closes : f.closesGroup = true
      · rw [if_pos closes] at built
        cases stack with
        | nil => cases built
        | cons group outer =>
            obtain ⟨opener, before⟩ := group
            exact .inr (.inr ⟨closes, opener, before, outer, rfl, built⟩)
      · rw [if_neg closes] at built
        cases built

/-! ## A step of the pass -/

/-- The tree asks for operators by the rules of the pass. -/
theorem requiredJoin_eq_joinEmitted (f : Filter) : requiredJoin f.id f.join = joinEmitted f := by
  rw [joinEmitted]
  cases f.join with
  | none => rfl
  | some join => cases join <;> rfl

theorem scanFrom_cons (previous : Option Filter) (f : Filter) (rest : List Filter) :
    scanFrom previous (f :: rest) =
      followedBy (scanJoin previous f) (followedBy (token f) (scanFrom (some f) rest)) := by
  rw [scanFrom]
  cases scanJoin previous f with
  | error e => rfl
  | ok join =>
      cases token f with
      | error e => rfl
      | ok text =>
          cases scanFrom (some f) rest with
          | error e => rfl
          | ok more => simp [String.append_assoc]

theorem token_leaf {f : Filter} (plain : f.kind ≠ .grouping) : token f = fragmentOrFail f := by
  simp [token, opensGroup, closesGroup, plain]

theorem token_open {f : Filter} (opens : f.opensGroup = true) : token f = .ok "(" := by
  rw [token, if_pos opens]

theorem token_close {f : Filter} (closes : f.closesGroup = true) : token f = .ok ")" := by
  have shut : ¬ f.opensGroup = true := by
    intro opens
    rw [not_closesGroup_of_opensGroup opens] at closes
    cases closes
  rw [token, if_neg shut, if_pos closes]

/-- The pass knows from one filter back whether a sequence has just begun. -/
theorem scanJoin_eq_joinAfter {previous : Option Filter} {clauses : List Clause}
    (begins : clauses = [] ↔ ∀ p ∈ previous, p.opensGroup = true) {f : Filter}
    (stays : f.closesGroup = false) : scanJoin previous f = joinAfter clauses f := by
  cases previous with
  | none =>
      have first : clauses = [] := begins.mpr (by simp)
      rw [scanJoin, joinAfter, if_pos first]
  | some p =>
      simp only [Option.mem_some_iff, forall_eq'] at begins
      by_cases opens : p.opensGroup = true
      · simp [scanJoin, joinAfter, opens, begins.mpr opens]
      · have later : clauses ≠ [] := fun first => opens (begins.mp first)
        simp [scanJoin, joinAfter, opens, later, stays, requiredJoin_eq_joinEmitted]

/-- By induction on what is left of the list. The open groups may be any; `begins` ties the
last filter read to the clauses of the innermost one. -/
theorem renderFirst_of_buildFrom {stack : List OpenGroup} {clauses tree : List Clause}
    {previous : Option Filter} {rest : List Filter}
    (begins : clauses = [] ↔ ∀ p ∈ previous, p.opensGroup = true)
    (built : buildFrom stack clauses rest = .ok tree) :
    renderFirst tree = followedBy (opened stack clauses) (scanFrom previous rest) := by
  induction rest generalizing stack clauses previous with
  | nil =>
      obtain ⟨rfl, rfl⟩ := buildFrom_nil built
      rw [opened, scanFrom, followedBy_empty]
  | cons f rest ih =>
      rw [scanFrom_cons]
      rcases buildFrom_cons built with ⟨plain, grown⟩ | ⟨opens, grown⟩ |
        ⟨closes, opener, before, outer, rfl, grown⟩
      · have stays : f.closesGroup = false := by simp [closesGroup, plain]
        have goesOn : Clause.leaf f :: clauses = [] ↔ ∀ p ∈ some f, p.opensGroup = true := by
          simp [opensGroup, plain]
        rw [ih goesOn grown, opened_cons, scanJoin_eq_joinAfter begins stays, token_leaf plain,
          renderClause]
        simp only [Clause.head, followedBy_assoc]
      · have goesOn : ([] : List Clause) = [] ↔ ∀ p ∈ some f, p.opensGroup = true := by
          simp [opens]
        rw [ih goesOn grown, opened_open,
          scanJoin_eq_joinAfter begins (not_closesGroup_of_opensGroup opens), token_open opens]
        simp only [followedBy_assoc]
      · have goesOn : Clause.group opener clauses.reverse :: before = [] ↔
            ∀ p ∈ some f, p.opensGroup = true := by
          have value := ((closesGroup_iff f).mp closes).2
          simp [opensGroup, value]
        have noJoin : scanJoin previous f = .ok "" := by
          cases previous <;> simp [scanJoin, closes]
        rw [ih goesOn grown, opened_close, noJoin, token_close closes, empty_followedBy]
        simp only [followedBy_assoc]

theorem renderFirst_eq_scan {filters : List Filter} {tree : List Clause}
    (built : build filters = .ok tree) : renderFirst tree = scan filters := by
  have begins : ([] : List Clause) = [] ↔ ∀ p ∈ (none : Option Filter), p.opensGroup = true := by
    simp
  rw [renderFirst_of_buildFrom begins built, opened, List.reverse_nil, renderFirst,
    empty_followedBy, scan]

theorem compile_structured_of_build {filters : List Filter} {tree : List Clause}
    (built : build filters = .ok tree) : compile .structured filters = scan filters := by
  rw [compile, compileTold, compileStructured, built]
  exact renderFirst_eq_scan built

theorem compile_structured_of_fault {filters : List Filter} {e : Failure}
    (fault : build filters = .error e) : compile .structured filters = .error e := by
  rw [compile, compileTold, compileStructured, fault]

/-! ## Place by place -/

/-- A join stands in front of the filter at a place, unless it is the first one, closes a
group, or follows one that opens a group. -/
def needsJoin (filters : List Filter) (place : Nat) (f : Filter) : Bool :=
  0 < place && !f.closesGroup && !(filters[place - 1]?.any opensGroup)

/-- What the filter at a place adds to the text, by the list alone. -/
def emitted (filters : List Filter) (place : Nat) (f : Filter) : Except Failure String :=
  followedBy (if needsJoin filters place f then joinEmitted f else .ok "") (token f)

def emittedInOrder (filters : List Filter) : List (Except Failure String) :=
  filters.mapIdx (emitted filters)

theorem scanJoin_eq_needsJoin (before rest : List Filter) (f : Filter) :
    scanJoin before.getLast? f =
      if needsJoin (before ++ f :: rest) before.length f then joinEmitted f else .ok "" := by
  cases previous : before.getLast? with
  | none =>
      rw [List.getLast?_eq_none_iff.mp previous]
      simp [scanJoin, needsJoin]
  | some p =>
      obtain ⟨ahead, rfl⟩ := List.getLast?_eq_some_iff.mp previous
      cases opens : p.opensGroup <;> cases closes : f.closesGroup <;>
        simp [scanJoin, needsJoin, opens, closes]

/-- By induction on what is left of the list; the places go on from what was read before. -/
theorem scanFrom_eq_inOrder (before rest : List Filter) :
    scanFrom before.getLast? rest =
      inOrder (rest.mapIdx fun i f => emitted (before ++ rest) (before.length + i) f) := by
  induction rest generalizing before with
  | nil => rfl
  | cons f rest ih =>
      have later := ih (before ++ [f])
      rw [List.getLast?_concat, List.append_assoc, List.singleton_append, List.length_append,
        List.length_singleton] at later
      have places : (fun i g => emitted (before ++ f :: rest) (before.length + 1 + i) g) =
          fun i g => emitted (before ++ f :: rest) (before.length + (i + 1)) g := by
        funext i g
        rw [Nat.add_assoc, Nat.add_comm 1 i]
      rw [scanFrom_cons, later, places, List.mapIdx_cons, inOrder, emitted, Nat.add_zero,
        scanJoin_eq_needsJoin before rest f, followedBy_assoc]

theorem scan_eq_inOrder (filters : List Filter) :
    scan filters = inOrder (emittedInOrder filters) := by
  have whole := scanFrom_eq_inOrder [] filters
  simpa only [scan, emittedInOrder, List.getLast?_nil, List.nil_append, List.length_nil,
    Nat.zero_add] using whole

/-- A list whose parentheses match is compiled by one pass, and the first failure of the
pass is the failure. A list whose parentheses do not match fails for that reason alone. -/
theorem compile_structured_eq_scan (filters : List Filter) :
    match build filters with
    | .error e => compile .structured filters = .error e
    | .ok _ =>
      compile .structured filters = scan filters ∧
      (∀ q, compile .structured filters = .ok q ↔
        ∃ texts, emittedInOrder filters = texts.map .ok ∧ q = String.join texts) ∧
      (∀ e, compile .structured filters = .error e ↔
        ∃ (texts : List String) (rest : _),
          emittedInOrder filters = texts.map .ok ++ .error e :: rest) := by
  cases built : build filters with
  | error e => exact compile_structured_of_fault built
  | ok tree =>
      have pass := compile_structured_of_build built
      refine ⟨pass, ?_, ?_⟩
      · intro q
        rw [pass, scan_eq_inOrder, inOrder_eq_ok_iff]
      · intro e
        rw [pass, scan_eq_inOrder, inOrder_eq_error_iff]

end IndexExport.Filter
