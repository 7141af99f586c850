import IndexExport.Proofs.Export.Exchanges
/-!
# The history of an export

The exchanges of a step are its `turn`, and those of a whole export one after the other are
its `history`. A step does exactly what its turn says, and leaves the query ready for the next
one. So by induction on the steps the history accounts for all that an export has done:
every request, every page that was written, and the fault that it ended with.
-/
set_option autoImplicit false

namespace IndexExport.Export

namespace Job

/-- The exchange in which something is asked for after so many requests. -/
def exchange (job : Job) (fetch : Fetcher) (query : SelectQuery) (state : State)
    (files : Storage.Tree) (before : Nat) (ask : Ask) : Exchange :=
  ⟨state, ask, ask.query job query, files, job.occasion (before + 1),
    (fetch before (ask.query job query).url).1⟩

/-- The exchanges of one step. -/
def turn (job : Job) (fetch : Fetcher) (query : SelectQuery) (state : State) (p : Progress) :
    List Exchange :=
  let exchange := job.exchange fetch query state p.files
  match state with
  | .counting => [exchange p.sent.length .count]
  | .single total => [exchange p.sent.length (.all total)]
  | .paging cursor =>
    if job.descriptor.paginates then [exchange p.sent.length (.page cursor.current)]
    else
      let listing := exchange p.sent.length (.next cursor.current)
      if (listing.fault job).isNone ∧ documentsIn listing.body ≠ [] then
        [listing, exchange (p.sent.length + 1) (.data cursor.current)]
      else [listing]
  | .done => []

/-- The query is as the state needs it. -/
def Ready (job : Job) (query : SelectQuery) (state : State) (p : Progress) : Prop :=
  match state with
  | .counting => job.descriptor.paginates = false ∧ p.query = query
  | .single total =>
    job.descriptor.paginates = false ∧ p.query = countQuery query ∧
      p.report.documentsFound = some total
  | .paging _ =>
    if job.descriptor.paginates then
      ∀ cursor, p.query.set "cursorMark" cursor = job.pageQuery query cursor
    else ∀ cursor, job.cursorQuery p.query cursor = job.metaQuery query cursor
  | .done => True

/-- What may follow a state. -/
def Leads (job : Job) : State → State → Prop
  | .counting, next => ∃ total, next = job.afterCount total
  | .single _, next => next = .done
  | .paging cursor, next => ∃ cursor?, next = follow cursor cursor?
  | .done, next => next = .done

/-- What may be asked for in a state. -/
def MayAsk (job : Job) : State → Ask → Prop
  | .counting, ask => ask = .count
  | .single total, ask => ask = .all total
  | .paging cursor, ask =>
    if job.descriptor.paginates then ask = .page cursor.current
    else ask = .next cursor.current ∨ ask = .data cursor.current
  | .done, _ => False

theorem ask_of_mem_turn {job : Job} {fetch : Fetcher} {query : SelectQuery} {state : State}
    {p : Progress} {x : Exchange} (member : x ∈ job.turn fetch query state p) :
    x.state = state ∧ job.MayAsk state x.ask := by
  cases state with
  | counting =>
      rw [List.mem_singleton.mp member]
      exact ⟨rfl, rfl⟩
  | single total =>
      rw [List.mem_singleton.mp member]
      exact ⟨rfl, rfl⟩
  | paging cursor =>
      rw [turn] at member
      simp only [MayAsk] at member ⊢
      split_ifs at member ⊢
      · rw [List.mem_singleton.mp member]
        exact ⟨rfl, rfl⟩
      · rcases List.mem_cons.mp member with rfl | data
        · exact ⟨rfl, .inl rfl⟩
        · rw [List.mem_singleton.mp data]
          exact ⟨rfl, .inr rfl⟩
      · rw [List.mem_singleton.mp member]
        exact ⟨rfl, .inl rfl⟩
  | done => cases member

section Steps

variable {format : Format} {job : Job} {fetch : Fetcher} {query : SelectQuery} {state : State}
variable {p : Progress} {cursor : Cursor}

/-- What a step from a state that is ready does: its exchanges take place, it fails with the
fault among them if there is one, and else it leaves the export ready again. -/
def Accounts (job : Job) (fetch : Fetcher) (query : SelectQuery) (state : State) (p : Progress)
    (xs : List Exchange) : Reached State → Prop
  | (.error e, after) => job.Takes fetch xs p after ∧ FaultIs job xs (some e)
  | (.ok next, after) => job.Takes fetch xs p after ∧ FaultIs job xs none ∧
      job.Ready query next after ∧ job.Leads state next

theorem counting_accounts (bulk : job.descriptor.paginates = false) (ready : p.query = query) :
    job.Accounts fetch query .counting p (job.turn fetch query .counting p)
      (job.countStep fetch p) := by
  let x := job.exchange fetch query .counting p.files p.sent.length .count
  have asks : x.query = countQuery p.query := by rw [ready]; rfl
  obtain ⟨after, took, ⟨e, fault, failed⟩ | ⟨fault, total, -, counted, found⟩⟩ :=
    job.countStep_cases (x := x) rfl rfl rfl asks rfl
  · rw [failed]
    exact ⟨.single took, .single fault⟩
  · rw [counted]
    refine ⟨.single took, .single fault, ?_, total, rfl⟩
    have asked : after.query = countQuery query := took.query
    rw [afterCount]
    split_ifs
    · trivial
    · exact ⟨bulk, asked, found⟩
    · rw [Ready, if_neg (ne_true_of_eq_false bulk), asked]
      exact fun cursor => rfl

theorem single_accounts {total : Nat} (ready : p.query = countQuery query) :
    job.Accounts fetch query (.single total) p (job.turn fetch query (.single total) p)
      (job.singleStep fetch total p) := by
  let x := job.exchange fetch query (.single total) p.files p.sent.length (.all total)
  let asking := (p.tell .fetchingAll).set "rows" (toString total)
  have asks : x.query = job.dataQuery asking.query := by
    change job.singleQuery query total = job.dataQuery (p.query.set "rows" (toString total))
    rw [ready, singleQuery]
  obtain ⟨after, took, result⟩ :=
    job.dataStep_cases (x := x) (p := asking) rfl rfl rfl asks rfl
  have took : job.Took fetch x p after := ⟨took.files, took.occasion, took.reply, took.query,
    took.sent, took.requests, took.left, took.paths⟩
  rw [singleStep_eq]
  rcases result with ⟨e, fault, failed⟩ | ⟨fault, wrote⟩
  · have failed : job.dataStep fetch 1 asking = (.error e, after) := failed
    rw [failed]
    exact ⟨.single took, .single fault⟩
  · have wrote : job.dataStep fetch 1 asking = (.ok (), after) := wrote
    rw [wrote]
    exact ⟨.single took, .single fault, trivial, rfl⟩

theorem ready_follow (next : String)
    (ready : job.Ready query (.paging cursor) p) : job.Ready query (follow cursor next) p := by
  rw [follow]
  split
  · trivial
  · exact ready

theorem page_accounts (native : job.descriptor.paginates = true)
    (ready : job.Ready query (.paging cursor) p) :
    job.Accounts fetch query (.paging cursor) p (job.turn fetch query (.paging cursor) p)
      (job.pageStep fetch cursor p) := by
  rw [Ready, if_pos native] at ready
  let x := job.exchange fetch query (.paging cursor) p.files p.sent.length (.page cursor.current)
  have turn : job.turn fetch query (.paging cursor) p = [x] := if_pos native
  have asks : x.query = p.query.set "cursorMark" cursor.current := (ready cursor.current).symm
  rw [turn]
  obtain ⟨after, took, ⟨e, fault, failed⟩ | ⟨fault, next, -, went⟩⟩ :=
    job.pageStep_cases (x := x) rfl rfl rfl rfl asks rfl
  · rw [failed]
    exact ⟨.single took, .single fault⟩
  · rw [went]
    refine ⟨.single took, .single fault, ready_follow next ?_, next, rfl⟩
    have asked : after.query = job.pageQuery query cursor.current := took.query
    rw [Ready, if_pos native, asked]
    exact job.pageQuery_set query cursor.current

theorem bulk_accounts (bulk : format.descriptor.paginates = false)
    (described : job.descriptor = format.descriptor)
    (ready : job.Ready query (.paging cursor) p) :
    job.Accounts fetch query (.paging cursor) p (job.turn fetch query (.paging cursor) p)
      (job.bulkStep fetch cursor p) := by
  have paged : ¬job.descriptor.paginates = true := by
    rw [described]
    exact ne_true_of_eq_false bulk
  rw [Ready, if_neg paged] at ready
  let x := job.exchange fetch query (.paging cursor) p.files p.sent.length (.next cursor.current)
  let y := job.exchange fetch query (.paging cursor) p.files (p.sent.length + 1)
    (.data cursor.current)
  have turn : job.turn fetch query (.paging cursor) p =
      if (x.fault job).isNone ∧ documentsIn x.body ≠ [] then [x, y] else [x] := if_neg paged
  have asks : x.query = job.cursorQuery p.query cursor.current := (ready cursor.current).symm
  rw [turn]
  obtain ⟨middle, took, ⟨e, fault, failed⟩ | ⟨fault, next, -, went⟩⟩ :=
    job.bulkStep_cases (x := x) rfl rfl rfl asks rfl
  · rw [failed, fault, if_neg (fun both => nomatch both.1)]
    exact ⟨.single took, .single fault⟩
  · rw [went, fault]
    have asked : middle.query = job.metaQuery query cursor.current := took.query
    by_cases empty : documentsIn x.body = []
    · rw [if_pos empty, if_neg (fun both => both.2 empty)]
      refine ⟨.single took, .single fault, ready_follow next ?_, next, rfl⟩
      rw [Ready, if_neg paged, asked]
      exact job.cursorQuery_metaQuery query cursor.current
    · rw [if_neg empty, if_pos ⟨rfl, empty⟩]
      have payload : x.payload job = none := rfl
      obtain ⟨-, -, left⟩ := Exchange.idle_of_no_payload payload
      have files : y.files = middle.files := (took.left.trans left).symm
      have count : middle.sent.length = p.sent.length + 1 := by
        rw [took.sent, List.length_append, List.length_singleton]
      have occasion : y.occasion = job.occasion (middle.sent.length + 1) := by rw [count]; rfl
      have later : y.query = job.dataQuery middle.query := by rw [asked]; rfl
      have turnOf : y.reply = (fetch middle.sent.length y.query.url).1 := by
        rw [count]
        rfl
      obtain ⟨after, second, ⟨e, lost, failed⟩ | ⟨kept, wrote⟩⟩ :=
        job.dataStep_cases (x := y) rfl files occasion later turnOf
      · have failed : job.dataStep fetch cursor.page middle = (.error e, after) := failed
        rw [failed]
        exact ⟨.cons took (.single second), .append (.single fault) (.single lost)⟩
      · have wrote : job.dataStep fetch cursor.page middle = (.ok (), after) := wrote
        rw [wrote]
        refine ⟨.cons took (.single second), .append (.single fault) (.single kept),
          ready_follow next ?_, next, rfl⟩
        have data : after.query = job.dataQuery (job.metaQuery query cursor.current) :=
          second.query
        rw [Ready, if_neg paged, data]
        exact cursorQuery_dataQuery bulk described query cursor.current

theorem step_accounts (described : job.descriptor = format.descriptor)
    (ready : job.Ready query state p) :
    job.Accounts fetch query state p (job.turn fetch query state p) (job.step fetch state p) := by
  cases state with
  | counting => exact counting_accounts ready.1 ready.2
  | single total => exact single_accounts ready.2.1
  | paging cursor =>
      rw [step]
      by_cases native : job.descriptor.paginates = true
      · rw [if_pos native]
        exact page_accounts native ready
      · rw [if_neg native]
        rw [described, Bool.not_eq_true] at native
        exact bulk_accounts native described ready
  | done => exact ⟨.nil p, fun x member => absurd member List.not_mem_nil, trivial, rfl⟩

theorem ready_start (files : Storage.Tree) :
    job.Ready query job.firstState (job.prepare (.start query files)) := by
  by_cases native : job.descriptor.paginates = true
  · rw [firstState, if_pos native, Ready, if_pos native]
    exact prepare_query native (.start query files)
  · rw [firstState, if_neg native, prepare, if_neg native]
    exact ⟨Bool.eq_false_iff.mpr native, rfl⟩

end Steps

/-! ## Histories -/

/-- The exchanges of a walk of at most `fuel` steps. -/
def historyFrom (job : Job) (fetch : Fetcher) (query : SelectQuery) :
    Nat → State → Progress → List Exchange
  | 0, _, _ => []
  | fuel + 1, state, p =>
    job.turn fetch query state p ++
      match job.step fetch state p with
      | (.error _, _) => []
      | (.ok next, after) => historyFrom job fetch query fuel next after

def history (job : Job) (fetch : Fetcher) (fuel : Nat) (query : SelectQuery)
    (files : Storage.Tree) : List Exchange :=
  job.historyFrom fetch query fuel job.firstState (job.prepare (.start query files))

def Outcome.failure? : Outcome → Option Failure
  | .failed e _ => some e
  | _ => none

section Walks

variable {format : Format} {job : Job} {fetch : Fetcher} {query : SelectQuery}
variable {state next : State} {p after : Progress} {fuel : Nat} {e : Failure} {x : Exchange}

theorem walk_zero (job : Job) (fetch : Fetcher) (state : State) (p : Progress) :
    (job.walk fetch 0 state p).progress = p ∧ (job.walk fetch 0 state p).failure? = none := by
  cases state <;> exact ⟨rfl, rfl⟩

theorem walk_failed (steps : job.step fetch state p = (.error e, after)) (fuel : Nat) :
    job.walk fetch (fuel + 1) state p = .failed e after := by
  cases state with
  | done => cases steps
  | counting => rw [walk, steps]; simp
  | single rows => rw [walk, steps]; simp
  | paging cursor => rw [walk, steps]; simp

theorem walk_zero_eq_unfinished (stands : job.walk fetch 0 state p = .unfinished next after) :
    next = state ∧ after = p ∧ state ≠ .done := by
  cases state with
  | done => cases stands
  | counting => cases stands; exact ⟨rfl, rfl, nofun⟩
  | single rows => cases stands; exact ⟨rfl, rfl, nofun⟩
  | paging cursor => cases stands; exact ⟨rfl, rfl, nofun⟩

/-- A walk that has not failed has taken its first step. -/
theorem walk_succ_cases (job : Job) (fetch : Fetcher) (fuel : Nat) (state : State)
    (p : Progress) :
    (∃ e after, job.walk fetch (fuel + 1) state p = .failed e after) ∨
    ∃ next after, job.step fetch state p = (.ok next, after) ∧
      job.walk fetch (fuel + 1) state p = job.walk fetch fuel next after := by
  cases steps : job.step fetch state p with
  | mk result after =>
      cases result with
      | error e => exact .inl ⟨e, after, walk_failed steps fuel⟩
      | ok next => exact .inr ⟨next, after, rfl, walk_succ steps fuel⟩

theorem walk_succ_eq_unfinished
    (stands : job.walk fetch (fuel + 1) state p = .unfinished next after) :
    ∃ other middle, job.step fetch state p = (.ok other, middle) ∧
      job.walk fetch fuel other middle = .unfinished next after := by
  obtain ⟨e, middle, failed⟩ | ⟨other, middle, steps, goes⟩ :=
    job.walk_succ_cases fetch fuel state p
  · rw [failed] at stands
    cases stands
  · exact ⟨other, middle, steps, goes.symm.trans stands⟩

theorem walk_succ_eq_finished {whole : Progress}
    (finished : job.walk fetch (fuel + 1) state p = .finished whole) :
    ∃ other middle, job.step fetch state p = (.ok other, middle) ∧
      job.walk fetch fuel other middle = .finished whole := by
  obtain ⟨e, middle, failed⟩ | ⟨other, middle, steps, goes⟩ :=
    job.walk_succ_cases fetch fuel state p
  · rw [failed] at finished
    cases finished
  · exact ⟨other, middle, steps, goes.symm.trans finished⟩

theorem historyFrom_failed (steps : job.step fetch state p = (.error e, after)) (fuel : Nat) :
    job.historyFrom fetch query (fuel + 1) state p = job.turn fetch query state p := by
  rw [historyFrom, steps]
  exact List.append_nil _

theorem historyFrom_succ (steps : job.step fetch state p = (.ok next, after)) (fuel : Nat) :
    job.historyFrom fetch query (fuel + 1) state p =
      job.turn fetch query state p ++ job.historyFrom fetch query fuel next after := by
  rw [historyFrom, steps]

theorem historyFrom_one (job : Job) (fetch : Fetcher) (query : SelectQuery) (state : State)
    (p : Progress) : job.historyFrom fetch query 1 state p = job.turn fetch query state p := by
  cases steps : job.step fetch state p with
  | mk result after =>
      cases result with
      | error e => exact historyFrom_failed steps 0
      | ok next =>
          rw [historyFrom_succ steps]
          exact List.append_nil _

theorem historyFrom_done (job : Job) (fetch : Fetcher) (query : SelectQuery) (fuel : Nat)
    (p : Progress) : job.historyFrom fetch query fuel .done p = [] := by
  induction fuel with
  | zero => rfl
  | succ fuel ih =>
      have steps : job.step fetch .done p = (.ok .done, p) := rfl
      rw [historyFrom_succ steps, ih]
      rfl

/-- The exchanges of a walk take place, and the walk fails with the fault among them. By
induction on the steps, each of which leaves the export ready for the next. -/
theorem walk_accounts (described : job.descriptor = format.descriptor)
    (ready : job.Ready query state p) (fuel : Nat) :
    job.Takes fetch (job.historyFrom fetch query fuel state p) p
        (job.walk fetch fuel state p).progress ∧
      FaultIs job (job.historyFrom fetch query fuel state p)
        (job.walk fetch fuel state p).failure? := by
  induction fuel generalizing state p with
  | zero =>
      obtain ⟨progress, failure⟩ := walk_zero job fetch state p
      rw [progress, failure]
      exact ⟨.nil p, fun x member => absurd member List.not_mem_nil⟩
  | succ fuel ih =>
      have accounts : job.Accounts fetch query state p (job.turn fetch query state p)
          (job.step fetch state p) := step_accounts described ready
      cases steps : job.step fetch state p with
      | mk result after =>
          rw [steps] at accounts
          cases result with
          | error e =>
              rw [walk_failed steps, historyFrom_failed steps]
              exact accounts
          | ok next =>
              obtain ⟨takes, clean, readyNext, -⟩ := accounts
              obtain ⟨rest, fault⟩ := ih readyNext
              rw [walk_succ steps, historyFrom_succ steps]
              exact ⟨takes.append rest, clean.append fault⟩

theorem ready_of_walk (described : job.descriptor = format.descriptor)
    (ready : job.Ready query state p)
    (stands : job.walk fetch fuel state p = .unfinished next after) :
    job.Ready query next after ∧ next ≠ .done := by
  induction fuel generalizing state p with
  | zero =>
      obtain ⟨rfl, rfl, going⟩ := walk_zero_eq_unfinished stands
      exact ⟨ready, going⟩
  | succ fuel ih =>
      obtain ⟨other, middle, steps, goes⟩ := walk_succ_eq_unfinished stands
      have accounts : job.Accounts fetch query state p (job.turn fetch query state p)
          (job.step fetch state p) := step_accounts described ready
      rw [steps] at accounts
      exact ih accounts.2.2.1 goes

/-- A walk that is not over goes on from where it stands. -/
theorem walk_more (stands : job.walk fetch fuel state p = .unfinished next after) :
    job.walk fetch (fuel + 1) state p = job.walk fetch 1 next after := by
  induction fuel generalizing state p with
  | zero =>
      obtain ⟨rfl, rfl, -⟩ := walk_zero_eq_unfinished stands
      rfl
  | succ fuel ih =>
      obtain ⟨other, middle, steps, goes⟩ := walk_succ_eq_unfinished stands
      rw [walk_succ steps, ih goes]

theorem historyFrom_more (stands : job.walk fetch fuel state p = .unfinished next after) :
    job.historyFrom fetch query (fuel + 1) state p =
      job.historyFrom fetch query fuel state p ++ job.turn fetch query next after := by
  induction fuel generalizing state p with
  | zero =>
      obtain ⟨rfl, rfl, -⟩ := walk_zero_eq_unfinished stands
      exact job.historyFrom_one fetch query next after
  | succ fuel ih =>
      obtain ⟨other, middle, steps, goes⟩ := walk_succ_eq_unfinished stands
      rw [historyFrom_succ steps, historyFrom_succ steps, ih goes, List.append_assoc]

/-- Each exchange belongs to the turn of a state that the walk has stood in. -/
theorem mem_historyFrom (member : x ∈ job.historyFrom fetch query fuel state p) :
    ∃ steps < fuel, ∃ next after, job.walk fetch steps state p = .unfinished next after ∧
      x ∈ job.turn fetch query next after ∧
      job.turn fetch query next after ⊆ job.historyFrom fetch query fuel state p := by
  induction fuel generalizing state p with
  | zero => cases member
  | succ fuel ih =>
      have here : x ∈ job.turn fetch query state p →
          job.walk fetch 0 state p = .unfinished state p := by
        intro first
        cases state with
        | done => cases first
        | counting => rfl
        | single rows => rfl
        | paging cursor => rfl
      have turn : job.turn fetch query state p ⊆ job.historyFrom fetch query (fuel + 1) state p :=
        List.subset_append_left _ _
      cases steps : job.step fetch state p with
      | mk result middle =>
          cases result with
          | error e =>
              rw [historyFrom_failed steps] at member
              exact ⟨0, fuel.succ_pos, state, p, here member, member, turn⟩
          | ok other =>
              rw [historyFrom_succ steps] at member turn ⊢
              rcases List.mem_append.mp member with first | later
              · exact ⟨0, fuel.succ_pos, state, p, here first, first, turn⟩
              · obtain ⟨count, below, next, after, stands, among, within⟩ := ih later
                refine ⟨count + 1, Nat.succ_lt_succ below, next, after, ?_, among,
                  List.subset_append_of_subset_right _ within⟩
                rw [walk_succ steps, stands]

/-- Where a walk is over, each exchange led to the next turn. -/
theorem next_turn (described : job.descriptor = format.descriptor)
    (ready : job.Ready query state p) {whole : Progress}
    (finished : job.walk fetch fuel state p = .finished whole)
    (member : x ∈ job.historyFrom fetch query fuel state p) :
    ∃ here before next after, job.Ready query here before ∧
      x ∈ job.turn fetch query here before ∧
      job.step fetch here before = (.ok next, after) ∧
      job.turn fetch query next after ⊆ job.historyFrom fetch query fuel state p := by
  induction fuel generalizing state p with
  | zero => cases member
  | succ fuel ih =>
      obtain ⟨other, middle, steps, goes⟩ := walk_succ_eq_finished finished
      have accounts : job.Accounts fetch query state p (job.turn fetch query state p)
          (job.step fetch state p) := step_accounts described ready
      rw [steps] at accounts
      rw [historyFrom_succ steps] at member ⊢
      rcases List.mem_append.mp member with first | later
      · refine ⟨state, p, other, middle, ready, first, steps, ?_⟩
        apply List.subset_append_of_subset_right
        cases fuel with
        | zero =>
            cases other with
            | done => exact List.nil_subset _
            | counting => cases goes
            | single rows => cases goes
            | paging cursor => cases goes
        | succ fuel => exact List.subset_append_left _ _
      · obtain ⟨here, before, next, after, stands, among, leads, within⟩ :=
          ih accounts.2.2.1 goes later
        exact ⟨here, before, next, after, stands, among, leads,
          List.subset_append_of_subset_right _ within⟩

end Walks

/-! ## What exchanges add up to -/

section Sums

variable {job : Job} {fetch : Fetcher} {xs : List Exchange} {p after : Progress}

theorem Takes.sent (takes : job.Takes fetch xs p after) :
    after.sent = p.sent ++ xs.map Exchange.request := by
  induction takes with
  | nil p => exact (List.append_nil p.sent).symm
  | cons first _ ih =>
      rw [ih, first.sent, List.append_assoc, List.map_cons, List.singleton_append]

theorem Takes.split {ys : List Exchange} (takes : job.Takes fetch (xs ++ ys) p after) :
    ∃ middle, job.Takes fetch xs p middle ∧ job.Takes fetch ys middle after := by
  induction xs generalizing p with
  | nil => exact ⟨p, .nil p, takes⟩
  | cons x xs ih =>
      obtain _ | ⟨took, rest⟩ := takes
      obtain ⟨middle, front, back⟩ := ih rest
      exact ⟨middle, .cons took front, back⟩

theorem Takes.concat {x : Exchange} (takes : job.Takes fetch (xs ++ [x]) p after) :
    ∃ middle, job.Took fetch x middle after := by
  obtain ⟨middle, -, last⟩ := takes.split
  obtain _ | ⟨took, rest⟩ := last
  cases rest
  exact ⟨middle, took⟩

theorem Takes.requests (takes : job.Takes fetch xs p after) :
    after.report.requests = p.report.requests + xs.length := by
  induction takes with
  | nil p => rfl
  | cons first _ ih =>
      rw [ih, first.requests, List.length_cons]
      omega

/-- Each exchange takes place after those before it, and meets what is met then. -/
theorem Takes.replies (takes : job.Takes fetch xs p after) {i : Nat} {x : Exchange}
    (there : xs[i]? = some x) : x.reply = (fetch (p.sent.length + i) x.query.url).1 ∧
      x.occasion = job.occasion (p.sent.length + i + 1) := by
  induction takes generalizing i with
  | nil p => cases there
  | cons first _ ih =>
      cases i with
      | zero =>
          cases there
          exact ⟨first.reply, first.occasion⟩
      | succ i =>
          have later := ih there
          rwa [first.sent, List.length_append, List.length_singleton, Nat.add_assoc,
            Nat.add_comm 1 i] at later

end Sums

/-! ## The whole -/

section Runs

variable {format : Format} {job : Job}

theorem alike_prepare (job : Job) (p : Progress) : p.Alike (job.prepare p) := by
  rw [prepare]
  split
  · have sorted : p.Alike ((p.set "rows" (toString job.rowsPerPage)).set "sort" cursorOrder) :=
      ⟨rfl, rfl, rfl⟩
    exact sorted.trans (Progress.alike_setOrRemove _ "fl" _)
  · exact ⟨rfl, rfl, rfl⟩

theorem run_accounts (described : job.descriptor = format.descriptor) (fetch : Fetcher)
    (fuel : Nat) (query : SelectQuery) (files : Storage.Tree) :
    job.Takes fetch (job.history fetch fuel query files) (job.prepare (.start query files))
        (job.run fetch fuel query files).progress ∧
      FaultIs job (job.history fetch fuel query files)
        (job.run fetch fuel query files).failure? :=
  walk_accounts described (ready_start files) fuel

/-- All requests of an export are those of its history. -/
theorem run_sent (described : job.descriptor = format.descriptor) (fetch : Fetcher) (fuel : Nat)
    (query : SelectQuery) (files : Storage.Tree) :
    (job.run fetch fuel query files).progress.sent =
      (job.history fetch fuel query files).map Exchange.request := by
  obtain ⟨takes, -⟩ := run_accounts described fetch fuel query files
  rw [takes.sent, (job.alike_prepare _).sent]
  exact List.nil_append _

end Runs

end Job

end IndexExport.Export
