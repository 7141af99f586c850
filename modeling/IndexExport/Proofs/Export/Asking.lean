import IndexExport.Proofs.Export.Histories
/-!
# What requests carry

The parameters of a query are set and removed step by step, and each step leaves them to the
next one. Where an export starts with a query without parameters, the request of each step
nevertheless carries exactly the parameters that its state calls for, in one order: none is
left over from a step before, whether that step asked for data or not.
-/
set_option autoImplicit false

namespace IndexExport.Export

namespace Job

def form (job : Job) : Parameters :=
  job.descriptor.responseWriter.toList.map fun form => ("wt", form)

def fields (job : Job) : Parameters :=
  job.descriptor.fieldList.toList.map fun fields => ("fl", fields)

end Job

/-- The parameters of a request, by what it asks for. -/
def Ask.parameters (job : Job) : Ask → Parameters
  | .count => [("rows", "0"), ("wt", "json")]
  | .all total => ("rows", toString total) :: job.form
  | .page cursor =>
    [("rows", toString job.rowsPerPage), ("sort", "id asc")] ++ job.fields ++
      [("cursorMark", cursor)]
  | .next cursor =>
    [("rows", toString job.rowsPerPage), ("wt", "json"), ("sort", "id asc"),
      ("cursorMark", cursor), ("fl", "id")]
  | .data cursor =>
    [("rows", toString job.rowsPerPage)] ++ job.form ++
      [("sort", "id asc"), ("cursorMark", cursor)]

namespace Job

/-- What an export asks for in a state. -/
def Asks (job : Job) (p : Progress) : State → List Ask → Prop
  | .counting, asks => job.descriptor.paginates = false ∧ asks = [.count]
  | .single total, asks =>
    job.descriptor.paginates = false ∧ p.report.documentsFound = some total ∧ asks = [.all total]
  | .paging cursor, asks =>
    if job.descriptor.paginates then asks = [.page cursor.current]
    else asks = [.next cursor.current] ∨ asks = [.next cursor.current, .data cursor.current]
  | .done, _ => False

section Parameters

variable {format : Format} {job : Job} {fetch : Fetcher} {query : SelectQuery}
variable {state : State} {p : Progress} {files : Storage.Tree}

theorem pageQuery_parameters (native : format.descriptor.paginates = true)
    (described : job.descriptor = format.descriptor) (fresh : query.parameters = [])
    (cursor : String) :
    (Ask.page cursor).query job query =
      { query with parameters := (Ask.page cursor).parameters job } := by
  obtain ⟨base, text, parameters⟩ := query
  obtain ⟨descriptor, rows, directory, occasion⟩ := job
  cases fresh
  cases described
  cases format with
  | solr => rfl
  | xml => rfl
  | json => rfl
  | csv => cases native
  | flatCsv => cases native

theorem bulkQuery_parameters (bulk : format.descriptor.paginates = false)
    (described : job.descriptor = format.descriptor) (fresh : query.parameters = [])
    (ask : Ask) (other : ∀ cursor, ask ≠ .page cursor) :
    ask.query job query = { query with parameters := ask.parameters job } := by
  obtain ⟨base, text, parameters⟩ := query
  obtain ⟨descriptor, rows, directory, occasion⟩ := job
  cases fresh
  cases described
  cases format with
  | solr => cases bulk
  | xml => cases bulk
  | json => cases bulk
  | csv =>
      cases ask with
      | page cursor => exact absurd rfl (other cursor)
      | count => rfl
      | all total => rfl
      | next cursor => rfl
      | data cursor => rfl
  | flatCsv =>
      cases ask with
      | page cursor => exact absurd rfl (other cursor)
      | count => rfl
      | all total => rfl
      | next cursor => rfl
      | data cursor => rfl

theorem asks_turn (fetch : Fetcher) (ready : job.Ready query state p) (going : state ≠ .done) :
    ∃ asks, job.Asks p state asks ∧ (job.turn fetch query state p).map Exchange.request =
      asks.map fun ask => ⟨ask.query job query, p.files⟩ := by
  cases state with
  | counting => exact ⟨[.count], ⟨ready.1, rfl⟩, rfl⟩
  | single total => exact ⟨[.all total], ⟨ready.1, ready.2.2, rfl⟩, rfl⟩
  | paging cursor =>
      rw [turn]
      simp only [Asks]
      by_cases native : job.descriptor.paginates = true
      · simp only [if_pos native]
        exact ⟨[.page cursor.current], rfl, rfl⟩
      · simp only [if_neg native]
        split
        · exact ⟨[.next cursor.current, .data cursor.current], .inr rfl, rfl⟩
        · exact ⟨[.next cursor.current], .inl rfl, rfl⟩
  | done => exact absurd rfl going

theorem query_of_asks (described : job.descriptor = format.descriptor)
    (fresh : query.parameters = []) {asks : List Ask} (calls : job.Asks p state asks) :
    ∀ ask ∈ asks, ask.query job query = { query with parameters := ask.parameters job } := by
  intro ask member
  cases state with
  | counting =>
      obtain ⟨bulk, rfl⟩ := calls
      rw [described] at bulk
      rw [List.mem_singleton.mp member]
      exact bulkQuery_parameters bulk described fresh .count nofun
  | single total =>
      obtain ⟨bulk, -, rfl⟩ := calls
      rw [described] at bulk
      rw [List.mem_singleton.mp member]
      exact bulkQuery_parameters bulk described fresh (.all total) nofun
  | paging cursor =>
      rw [Asks, described] at calls
      by_cases native : format.descriptor.paginates = true
      · rw [if_pos native] at calls
        subst calls
        rw [List.mem_singleton.mp member]
        exact pageQuery_parameters native described fresh cursor.current
      · rw [if_neg native] at calls
        apply bulkQuery_parameters (Bool.eq_false_iff.mpr native) described fresh
        rintro other rfl
        rcases calls with rfl | rfl
        · cases List.mem_singleton.mp member
        · rcases List.mem_cons.mp member with same | same
          · cases same
          · cases List.mem_singleton.mp same
  | done => exact absurd calls id

/-- From a query without parameters, the request of every step carries the parameters that
its state calls for and no others. The data of a page is asked for as its cursor was, but for
the form of the answer and the fields. -/
theorem run_carries_own_parameters (described : job.descriptor = format.descriptor)
    (fresh : query.parameters = []) :
    (∀ fuel state p, job.run fetch fuel query files = .unfinished state p →
      ∃ asks, job.Asks p state asks ∧
        (job.run fetch (fuel + 1) query files).progress.sent =
          p.sent ++ asks.map fun ask => ⟨{ query with parameters := ask.parameters job }, p.files⟩) ∧
    (∀ fuel, ∀ request ∈ (job.run fetch fuel query files).progress.sent,
      ∃ steps < fuel, ∃ state p asks, ∃ ask ∈ asks,
        job.run fetch steps query files = .unfinished state p ∧ job.Asks p state asks ∧
        request.query.base = query.base ∧
        request.query.pairs = ("q", query.query) :: ask.parameters job) ∧
    ∀ cursor,
      (((Ask.data cursor).parameters job).filter fun pair => pair.1 ≠ "wt" ∧ pair.1 ≠ "fl") =
        ((Ask.next cursor).parameters job).filter fun pair => pair.1 ≠ "wt" ∧ pair.1 ≠ "fl" := by
  have start : job.Ready query job.firstState (job.prepare (.start query files)) :=
    ready_start files
  refine ⟨?_, ?_, ?_⟩
  · intro fuel state p stands
    obtain ⟨ready, going⟩ := ready_of_walk described start stands
    obtain ⟨asks, calls, requests⟩ := asks_turn fetch ready going
    have own := query_of_asks described fresh calls
    have takes : job.Takes fetch (job.turn fetch query state p) p
        (job.walk fetch 1 state p).progress := by
      rw [← historyFrom_one]
      exact (walk_accounts described ready 1).1
    refine ⟨asks, calls, ?_⟩
    rw [run, walk_more stands, takes.sent, requests]
    congr 1
    apply List.map_congr_left
    intro ask member
    rw [own ask member]
  · intro fuel request member
    rw [run_sent described] at member
    obtain ⟨x, exchanged, rfl⟩ := List.mem_map.mp member
    obtain ⟨steps, below, state, p, stands, turn, -⟩ := mem_historyFrom exchanged
    obtain ⟨ready, going⟩ := ready_of_walk described start stands
    obtain ⟨asks, calls, requests⟩ := asks_turn fetch ready going
    have asked : x.request ∈ asks.map fun ask => ⟨ask.query job query, p.files⟩ := by
      rw [← requests]
      exact List.mem_map_of_mem turn
    obtain ⟨ask, among, same⟩ := List.mem_map.mp asked
    rw [query_of_asks described fresh calls ask among] at same
    refine ⟨steps, below, state, p, asks, ask, among, stands, calls, ?_, ?_⟩
    · rw [← same]
    · rw [← same]
      rfl
  · intro cursor
    cases wanted : job.descriptor.responseWriter with
    | none => simp [Ask.parameters, form, wanted]
    | some form => simp [Ask.parameters, Job.form, wanted]

end Parameters

/-! The second page of three in bulk, after a page whose data was asked for. It lists no
documents, so its cursor is all that is asked for. -/

theorem run_carries_second_cursor : ∃ p,
    csvJob.run (replying bulkBodies) 2 default emptyDirectory =
      .unfinished (.paging ⟨"m", "*", 2, false⟩) p ∧
    (csvJob.run (replying bulkBodies) 3 default emptyDirectory).progress.sent =
      p.sent ++ [⟨{ (default : SelectQuery) with
        parameters := (Ask.next "m").parameters csvJob }, p.files⟩] := by
  have described : csvJob.descriptor = Format.csv.descriptor := rfl
  obtain ⟨turns, -, -⟩ := @run_carries_own_parameters .csv csvJob (replying bulkBodies) default
    emptyDirectory described rfl
  obtain ⟨p, stands, before⟩ : ∃ p, csvJob.run (replying bulkBodies) 2 default emptyDirectory =
      .unfinished (.paging ⟨"m", "*", 2, false⟩) p ∧ p.sent.length = 3 := ⟨_, rfl, rfl⟩
  have after : (csvJob.run (replying bulkBodies) 3 default
      emptyDirectory).progress.sent.length = 4 := rfl
  obtain ⟨asks, calls, sent⟩ := turns 2 _ p stands
  rcases calls with rfl | rfl
  · exact ⟨p, stands, sent⟩
  · rw [sent, List.length_append, before] at after
    cases after

end Job

end IndexExport.Export
