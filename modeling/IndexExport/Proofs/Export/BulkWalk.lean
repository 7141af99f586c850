import IndexExport.Proofs.Export.BulkQueries
import IndexExport.Proofs.Export.Tables
/-!
# Exports in bulk

What follows the count depends on its size: nothing, one request for all documents, or a
walk along a chain of cursors. `OnBulkPage` is what holds after so many pages of a walk, and
each page keeps it, whether it has documents or not.
-/
set_option autoImplicit false

namespace IndexExport.Export

namespace Job

/-- The answers to the requests for data; no data is asked for a page without documents. -/
def dataAt (metas : Nat → Select.Response) (bodies : Nat → String) (i : Nat) : Option String :=
  if (metas i).documents = [] then none else some (bodies i)

/-- After the count and `i` pages of a chain of `n`. -/
structure OnBulkPage (job : Job) (query : SelectQuery) (files : Storage.Tree) (total : Nat)
    (metas : Nat → Select.Response) (bodies : Nat → String) (n i : Nat) (state : State)
    (p : Progress) : Prop where
  stands : Stands metas n i state
  asks : ∀ cursor, job.cursorQuery p.query cursor = job.metaQuery query cursor
  tally : Tally job files (fun j => (dataAt metas bodies j).bind job.payloadOf)
    (fun j => requestsBefore metas j + 2) i (job.bulkQueries query metas i) (some total) p

/-! ## Data -/

section Data

variable {job : Job} {fetch : Fetcher} {before : Storage.Tree}
variable {payloadAt : Nat → Option Page.Payload} {sentAt : Nat → Nat} {pages : Nat}
variable {queries : List SelectQuery} {found : Option Nat} {p : Progress}

/-- One request for data, and one page from its answer. -/
theorem data_step (plain : job.Plain)
    (tally : Tally job before payloadAt sentAt pages queries found p) {page : UInt32}
    (number : page.toNat = pages + 1) {query : SelectQuery}
    (asks : job.dataQuery p.query = query)
    {body : String} (answered : Answered fetch queries.length query body)
    (readable : Readable job body) (payload : payloadAt pages = job.payloadOf body)
    (timely : sentAt pages = queries.length + 1)
    (writable : ∀ payload, payloadAt pages = some payload →
      Writable job before (queries.length + 1) (pages + 1) payload) :
    ∃ after, job.dataStep fetch page p = (.ok (), after) ∧ after.query = query ∧
      Tally job before payloadAt sentAt (pages + 1) (queries ++ [query]) found after := by
  have asked' : (job.applyFieldList (job.applyResponseWriter p)).query = query := by
    rw [applyFieldList, applyResponseWriter, Progress.setOrRemove_query,
      Progress.setOrRemove_query, ← asks, dataQuery]
  have alike : p.Alike (job.applyFieldList (job.applyResponseWriter p)) :=
    (Progress.alike_setOrRemove p "wt" _).trans (Progress.alike_setOrRemove _ "fl" _)
  obtain ⟨replied, reply, kept, asked⟩ := tally.ask asked' answered alike
  have count : (queries ++ [query]).length = queries.length + 1 := List.length_append
  obtain ⟨after, wrote, stays, grown⟩ := asked.writeAnswer plain number query.url.text readable
    payload (timely.trans count.symm) (by rwa [count])
  refine ⟨after, ?_, stays.trans kept, grown⟩
  rw [dataStep, reply]
  exact wrote

/-- All documents at once are data for the first page. -/
theorem singleStep_eq (job : Job) (fetch : Fetcher) (rows : Nat) (p : Progress) :
    job.singleStep fetch rows p =
      match job.dataStep fetch 1 ((p.tell .fetchingAll).set "rows" (toString rows)) with
      | (.error e, p) => (.error e, p)
      | (.ok (), p) => (.ok .done, p) := by
  rw [singleStep, dataStep]
  cases request fetch (job.applyFieldList (job.applyResponseWriter
    ((p.tell .fetchingAll).set "rows" (toString rows)))) with
  | mk reply after =>
      cases reply with
      | error e => rfl
      | ok answer => rfl

end Data

/-! ## Steps -/

section Steps

variable {format : Format} {job : Job} {fetch : Fetcher} {query : SelectQuery}
variable {files : Storage.Tree} {total : Nat} {body : String}

/-- The count says what follows. -/
theorem count_step (bulk : job.descriptor.paginates = false) (files : Storage.Tree)
    (payloadAt : Nat → Option Page.Payload) (sentAt : Nat → Nat) {response : Select.Response}
    (answered : Answered fetch 0 (countQuery query) body)
    (held : Select.Response.read body = .ok response) (counted : response.count? = some total) :
    ∃ after, job.step fetch job.firstState (job.prepare (.start query files)) =
        (.ok (job.afterCount total), after) ∧ after.query = countQuery query ∧
      Tally job files payloadAt sentAt 0 [countQuery query] (some total) after := by
  have paged : ¬job.descriptor.paginates = true := ne_true_of_eq_false bulk
  have tally : Tally job files payloadAt sentAt 0 [] none (.start query files) :=
    .start rfl rfl rfl
  have asks : (((((Progress.start query files).tell .counting).set "rows" "0").set "wt"
      "json").setOrRemove "fl" none).query = countQuery query := rfl
  obtain ⟨replied, reply, query', asked⟩ := tally.ask asks answered ⟨rfl, rfl, rfl⟩
  refine ⟨(replied.count total).tell (.counted total), ?_, query', ?_⟩
  · rw [firstState, if_neg paged, prepare, if_neg paged, step, countStep]
    simp only [reply, readResponse_of_read _ held, countOf_of_count _ counted]
  · exact (asked.count total).congr ⟨rfl, rfl, rfl⟩

/-- All documents come at once. -/
theorem single_step (plain : job.Plain)
    {payloadAt : Nat → Option Page.Payload} {sentAt : Nat → Nat} {queries : List SelectQuery}
    {found : Option Nat} {p : Progress} (tally : Tally job files payloadAt sentAt 0 queries found p)
    (counted : p.query = countQuery query)
    (answered : Answered fetch queries.length (job.singleQuery query total) body)
    (readable : Readable job body) (payload : payloadAt 0 = job.payloadOf body)
    (timely : sentAt 0 = queries.length + 1)
    (writable : ∀ payload, payloadAt 0 = some payload →
      Writable job files (queries.length + 1) 1 payload) :
    ∃ after, job.step fetch (.single total) p = (.ok .done, after) ∧
      Tally job files payloadAt sentAt 1 (queries ++ [job.singleQuery query total]) found
        after := by
  have first : (1 : UInt32).toNat = 0 + 1 := rfl
  have asks : job.dataQuery ((p.tell .fetchingAll).set "rows" (toString total)).query =
      job.singleQuery query total := by
    rw [singleQuery, ← counted]
    rfl
  have ready : Tally job files payloadAt sentAt 0 queries found
      ((p.tell .fetchingAll).set "rows" (toString total)) := tally.congr ⟨rfl, rfl, rfl⟩
  obtain ⟨after, wrote, -, grown⟩ :=
    data_step plain ready first asks answered readable payload timely writable
  refine ⟨after, ?_, grown⟩
  rw [step, singleStep_eq, wrote]

/-- A page of a walk: the cursor comes first, and the data where there are documents. -/
theorem onBulkPage_step {metas : Nat → Select.Response} {bodies : Nat → String} {n i : Nat}
    (bulk : format.descriptor.paginates = false) (described : job.descriptor = format.descriptor)
    (chain : Chain metas n) (below : i < n)
    (answered : Answered fetch (requestsBefore metas i)
      (job.metaQuery query (cursorAt metas i)) body)
    (held : Select.Response.read body = .ok (metas i))
    (data : (metas i).documents ≠ [] →
      Answered fetch (requestsBefore metas i + 1)
        (job.dataQuery (job.metaQuery query (cursorAt metas i))) (bodies i) ∧
      Readable job (bodies i) ∧
      ∀ payload, job.payloadOf (bodies i) = some payload →
        Writable job files (requestsBefore metas i + 2) (i + 1) payload)
    {state : State} {p : Progress}
    (here : job.OnBulkPage query files total metas bodies n i state p) :
    ∃ next after, job.step fetch state p = (.ok next, after) ∧
      job.OnBulkPage query files total metas bodies n (i + 1) next after := by
  obtain ⟨cursor, rfl, before⟩ := here.stands.paging below
  have plain : job.Plain := plain_of_format described
  have paged : ¬job.descriptor.paginates = true := by
    rw [described]
    exact ne_true_of_eq_false bulk
  have asks : (job.askForCursor cursor p).query = job.metaQuery query (cursorAt metas i) := by
    rw [← before.current, ← here.asks]
    rfl
  rw [← length_bulkQueries job query] at answered
  obtain ⟨replied, reply, query', asked⟩ := here.tally.ask asks answered ⟨rfl, rfl, rfl⟩
  have moves := chain.stands_follow below before
  -- Only a page with documents has a second request, and only its answer is written.
  by_cases empty : (metas i).documents = []
  · refine ⟨follow cursor (cursorAt metas (i + 1)),
      replied.tell (.pageEmpty cursor.page.toNat), ?_, moves, ?_, ?_⟩
    · rw [step, if_neg paged, bulkStep]
      simp only [reply, readResponse_of_read _ held,
        cursorOf_of_cursor _ (chain.cursor_eq below), if_pos empty]
    · intro next
      have same : (replied.tell (.pageEmpty cursor.page.toNat)).query =
          job.metaQuery query (cursorAt metas i) := query'
      rw [same, cursorQuery_metaQuery]
    · rw [bulkQueries_succ, pageQueries, if_pos empty]
      have nothing : (dataAt metas bodies i).bind job.payloadOf = none := by
        rw [dataAt, if_pos empty, Option.bind_none]
      exact (asked.skip nothing).congr ⟨rfl, rfl, rfl⟩
  · obtain ⟨dataAnswered, readable, writable⟩ := data empty
    have payload : (dataAt metas bodies i).bind job.payloadOf = job.payloadOf (bodies i) := by
      rw [dataAt, if_neg empty, Option.bind_some]
    have count : (job.bulkQueries query metas i ++
        [job.metaQuery query (cursorAt metas i)]).length = requestsBefore metas i + 1 := by
      rw [List.length_append, length_bulkQueries, List.length_singleton]
    obtain ⟨after, wrote, query'', grown⟩ := data_step plain asked before.page
      (congrArg job.dataQuery query') (by rwa [count]) readable payload (by rw [count])
      (by rwa [payload, count])
    refine ⟨follow cursor (cursorAt metas (i + 1)), after, ?_, moves, ?_, ?_⟩
    · rw [step, if_neg paged, bulkStep]
      simp only [reply, readResponse_of_read _ held,
        cursorOf_of_cursor _ (chain.cursor_eq below), if_neg empty, wrote]
    · intro next
      rw [query'', cursorQuery_dataQuery bulk described]
    · rw [bulkQueries_succ, pageQueries, if_neg empty, List.append_cons]
      exact grown

end Steps

/-! ## Exports -/

section Exports

variable {format : Format} {job : Job} {fetch : Fetcher} {query : SelectQuery}
variable {files : Storage.Tree} {total : Nat} {body : String} {response : Select.Response}
variable {metas : Nat → Select.Response} {bodies : Nat → String} {n : Nat}

/-- The index answers all requests for `n` pages of a walk in bulk, and what the answers to
the requests for data hold can be written. -/
structure Served (job : Job) (fetch : Fetcher) (query : SelectQuery) (files : Storage.Tree)
    (metas : Nat → Select.Response) (bodies : Nat → String) (n : Nat) : Prop where
  chain : Chain metas n
  cursors : ∀ i < n, ∃ body,
    Answered fetch (requestsBefore metas i) (job.metaQuery query (cursorAt metas i)) body ∧
    Select.Response.read body = .ok (metas i)
  data : ∀ i < n, (metas i).documents ≠ [] →
    Answered fetch (requestsBefore metas i + 1)
      (job.dataQuery (job.metaQuery query (cursorAt metas i))) (bodies i) ∧
    Readable job (bodies i) ∧
    ∀ payload, job.payloadOf (bodies i) = some payload →
      Writable job files (requestsBefore metas i + 2) (i + 1) payload

theorem run_of_nothing (bulk : job.descriptor.paginates = false) (files : Storage.Tree)
    (answered : Answered fetch 0 (countQuery query) body)
    (held : Select.Response.read body = .ok response) (counted : response.count? = some 0)
    {fuel : Nat} (enough : 1 ≤ fuel) :
    ∃ p, job.run fetch fuel query files = .finished p ∧
      Tally job files (fun _ => none) (fun _ => 2) 0 [countQuery query] (some 0) p := by
  obtain ⟨fuel, rfl⟩ : ∃ rest, fuel = rest + 1 := ⟨fuel - 1, by omega⟩
  obtain ⟨p, count, -, tally⟩ :=
    count_step bulk files (fun _ => none) (fun _ => 2) answered held counted
  refine ⟨p, ?_, tally⟩
  rw [run, walk_succ count, afterCount, if_pos rfl, walk_done]

theorem run_of_few (bulk : job.descriptor.paginates = false)
    (plain : job.Plain)
    (answered : Answered fetch 0 (countQuery query) body)
    (held : Select.Response.read body = .ok response) (counted : response.count? = some total)
    (positive : 0 < total) (few : total < job.rowsPerPage) {data : String}
    (dataAnswered : Answered fetch 1 (job.singleQuery query total) data)
    (readable : Readable job data)
    (writable : ∀ payload, job.payloadOf data = some payload → Writable job files 2 1 payload)
    {fuel : Nat} (enough : 2 ≤ fuel) :
    ∃ p, job.run fetch fuel query files = .finished p ∧
      Tally job files (fun _ => (some data).bind job.payloadOf) (fun _ => 2) 1
        [countQuery query, job.singleQuery query total] (some total) p := by
  obtain ⟨fuel, rfl⟩ : ∃ rest, fuel = rest + 1 + 1 := ⟨fuel - 2, by omega⟩
  obtain ⟨first, count, asks, tally⟩ := count_step bulk files
    (fun _ => (some data).bind job.payloadOf) (fun _ => 2) answered held counted
  obtain ⟨p, single, whole⟩ :=
    single_step plain tally asks dataAnswered readable rfl rfl writable
  refine ⟨p, ?_, whole⟩
  rw [run, walk_succ count, afterCount, if_neg (by omega), if_pos few, walk_succ single,
    walk_done]

theorem run_of_many (bulk : format.descriptor.paginates = false)
    (described : job.descriptor = format.descriptor) (positive : 0 < job.rowsPerPage)
    (answered : Answered fetch 0 (countQuery query) body)
    (held : Select.Response.read body = .ok response) (counted : response.count? = some total)
    (many : job.rowsPerPage ≤ total) (served : Served job fetch query files metas bodies n)
    {fuel : Nat} (enough : n + 1 ≤ fuel) :
    ∃ p, job.run fetch fuel query files = .finished p ∧
      Tally job files (fun i => (dataAt metas bodies i).bind job.payloadOf)
        (fun i => requestsBefore metas i + 2) n (job.bulkQueries query metas n) (some total) p := by
  obtain ⟨fuel, rfl⟩ : ∃ rest, fuel = rest + 1 := ⟨fuel - 1, by omega⟩
  have paged : job.descriptor.paginates = false := by rw [described, bulk]
  obtain ⟨first, count, asks, tally⟩ := count_step paged files
    (fun i => (dataAt metas bodies i).bind job.payloadOf) (fun i => requestsBefore metas i + 2)
    answered held counted
  have start : job.OnBulkPage query files total metas bodies n 0 (.paging .start) first := by
    refine ⟨served.chain.stands_zero, ?_, tally⟩
    intro cursor
    rw [asks, metaQuery]
  have steps : ∀ i < n, ∀ state p, job.OnBulkPage query files total metas bodies n i state p →
      ∃ next after, job.step fetch state p = (.ok next, after) ∧
        job.OnBulkPage query files total metas bodies n (i + 1) next after := by
    intro i below state p here
    obtain ⟨page, cursor, known⟩ := served.cursors i below
    exact onBulkPage_step bulk described served.chain below cursor known
      (served.data i below) here
  obtain ⟨p, finished, here⟩ := walk_of_steps steps (fun _ _ here => here.stands.done)
    (Nat.zero_le n) start (show n - 0 ≤ fuel by omega)
  refine ⟨p, ?_, here.tally⟩
  rw [run, walk_succ count, afterCount, if_neg (by omega), if_neg (by omega), finished]

/-- An export in bulk counts first. Without documents it is over, few documents take one
more request, and many of them a walk along a chain of cursors, with a request for the
cursor of each page and one for its data where the page has documents. -/
theorem run_finished_by_count (format : Format) (bulk : format.descriptor.paginates = false)
    (described : job.descriptor = format.descriptor) (positive : 0 < job.rowsPerPage)
    (answered : Answered fetch 0 (countQuery query) body)
    (held : Select.Response.read body = .ok response) (counted : response.count? = some total) :
    (total = 0 → ∀ fuel, 1 ≤ fuel → ∃ p, job.run fetch fuel query files = .finished p ∧
      p.sent.map Request.query = [countQuery query] ∧ p.report = ⟨[], some total, 0, 1⟩ ∧
      ∀ place, p.files.at? place = files.at? place) ∧
    (0 < total → total < job.rowsPerPage → ∀ data,
      Answered fetch 1 (job.singleQuery query total) data → Readable job data →
      (∀ payload, job.payloadOf data = some payload → Writable job files 2 1 payload) →
      ∀ fuel, 2 ≤ fuel → ∃ p, job.run fetch fuel query files = .finished p ∧
        p.sent.map Request.query = [countQuery query, job.singleQuery query total] ∧
        p.report.requests = 2 ∧ p.report.documentsFound = some total ∧
        Tables format job files (fun _ => some data) 1 p) ∧
    (job.rowsPerPage ≤ total → ∀ n metas bodies, Served job fetch query files metas bodies n →
      ∀ fuel, n + 1 ≤ fuel → ∃ p, job.run fetch fuel query files = .finished p ∧
        p.sent.map Request.query = job.bulkQueries query metas n ∧
        (∀ i < n, ∀ asked ∈ job.pageQueries query metas i,
          asked.get? "cursorMark" = some (cursorAt metas i)) ∧
        p.report.requests =
          1 + n + ((List.range n).filter fun i => (metas i).documents ≠ []).length ∧
        p.report.documentsFound = some total ∧
        Tables format job files (dataAt metas bodies) n p) := by
  have paged : job.descriptor.paginates = false := by rw [described, bulk]
  have plain : job.Plain := plain_of_format described
  refine ⟨?_, ?_, ?_⟩
  · rintro rfl fuel enough
    obtain ⟨p, finished, tally⟩ := run_of_nothing paged files answered held counted enough
    have report : p.report = ⟨[], some 0, 0, 1⟩ := tally.report_eq
    refine ⟨p, finished, tally.sent, report, ?_⟩
    intro place
    apply tally.written.untouched
    rw [report]
    exact fun path member => absurd member List.not_mem_nil
  · intro present few data dataAnswered readable writable fuel enough
    obtain ⟨p, finished, tally⟩ := run_of_few paged plain answered held counted present few
      dataAnswered readable writable enough
    exact ⟨p, finished, tally.sent, tally.requests, tally.found, tally.written.tables described⟩
  · intro many n metas bodies served fuel enough
    obtain ⟨p, finished, tally⟩ := run_of_many bulk described positive answered held counted many
      served enough
    refine ⟨p, finished, tally.sent, ?_, ?_, tally.found, tally.written.tables described⟩
    · intro i _
      exact cursor_of_mem_pageQueries bulk described query metas i
    · rw [tally.requests, length_bulkQueries, requestsBefore]

end Exports

/-! Exports without documents, with one, and with three pages in bulk. -/

def csvJob : Job := ⟨Format.csv.descriptor, 2, "out", counted⟩

def emptyDirectory : Storage.Tree := ⟨[(["out"], .directory)]⟩

def countBody (total : String) : String :=
  "\x7b\"response\":\x7b\"numFound\":" ++ total ++ "\x7d\x7d"

def bulkBodies : List String :=
  [countBody "2", threeBodies.getD 0 "", "id\na\n", threeBodies.getD 1 "",
    threeBodies.getD 2 "", "id\nb\n"]

def tableBodies (i : Nat) : String := ["id\na\n", "", "id\nb\n"].getD i ""

theorem served_bulkBodies :
    Served csvJob (replying bulkBodies) default emptyDirectory threeResponses tableBodies 3 := by
  refine ⟨chain_threeResponses, ?_, ?_⟩
  · intro i below
    refine ⟨threeBodies.getD i "", ?_, read_threeBodies i below⟩
    obtain rfl | rfl | rfl : i = 0 ∨ i = 1 ∨ i = 2 := by omega
    · exact answered_replying bulkBodies 1 _
    · exact answered_replying bulkBodies 3 _
    · exact answered_replying bulkBodies 4 _
  · intro i below nonempty
    obtain rfl | rfl | rfl : i = 0 ∨ i = 1 ∨ i = 2 := by omega
    · refine ⟨answered_replying bulkBodies 2 _, nofun, ?_⟩
      rintro payload ⟨⟩
      exact rfl
    · exact absurd rfl nonempty
    · refine ⟨answered_replying bulkBodies 5 _, nofun, ?_⟩
      rintro payload ⟨⟩
      exact rfl

theorem run_counted :
    (∃ p, csvJob.run (replying [countBody "0"]) 1 default emptyDirectory = .finished p ∧
      p.report.requests = 1 ∧ p.report.files = []) ∧
    (∃ p, csvJob.run (replying [countBody "1", "id\na\n"]) 2 default emptyDirectory =
        .finished p ∧
      p.report.requests = 2 ∧ p.files.read "out/page1.csv" = .ok (.text "id\na\n")) ∧
    (∃ p, csvJob.run (replying bulkBodies) 4 default emptyDirectory = .finished p ∧
      p.report.requests = 6 ∧ p.report.files = ["out/page1.csv", "out/page3.csv"] ∧
      p.files.read "out/page3.csv" = .ok (.text "id\nb\n")) := by
  have bulk : Format.csv.descriptor.paginates = false := rfl
  have described : csvJob.descriptor = Format.csv.descriptor := rfl
  have positive : 0 < csvJob.rowsPerPage := by decide
  refine ⟨?_, ?_, ?_⟩
  · have held : Select.Response.read (countBody "0") = .ok ⟨some ⟨some 0, none⟩, none⟩ := by rfl
    obtain ⟨nothing, -, -⟩ := run_finished_by_count .csv bulk described positive
      (answered_replying [countBody "0"] 0 _) held rfl
    obtain ⟨p, finished, -, report, -⟩ := nothing rfl 1 (Nat.le_refl 1)
    exact ⟨p, finished, by rw [report], by rw [report]⟩
  · have held : Select.Response.read (countBody "1") = .ok ⟨some ⟨some 1, none⟩, none⟩ := by rfl
    have writable : ∀ payload, csvJob.payloadOf "id\na\n" = some payload →
        Writable csvJob emptyDirectory 2 1 payload := by
      rintro payload ⟨⟩
      exact rfl
    obtain ⟨-, few, -⟩ := run_finished_by_count .csv bulk described positive
      (answered_replying [countBody "1", "id\na\n"] 0 _) held rfl
    obtain ⟨p, finished, -, requests, -, tables⟩ := few (by decide) (by decide) "id\na\n"
      (answered_replying [countBody "1", "id\na\n"] 1 _) nofun writable 2 (Nat.le_refl 2)
    exact ⟨p, finished, requests, (tables.csv rfl).2.2 0 (by decide) _ rfl⟩
  · have held : Select.Response.read (countBody "2") = .ok ⟨some ⟨some 2, none⟩, none⟩ := by rfl
    obtain ⟨-, -, many⟩ := run_finished_by_count .csv bulk described positive
      (answered_replying bulkBodies 0 _) held rfl
    obtain ⟨p, finished, -, -, requests, -, tables⟩ :=
      many (by decide) 3 _ _ served_bulkBodies 4 (Nat.le_refl 4)
    obtain ⟨paths, -, texts⟩ := tables.csv rfl
    exact ⟨p, finished, requests, paths, texts 2 (by decide) _ rfl⟩

end Job

end IndexExport.Export
