import IndexExport.Proofs.Export.Chains
import IndexExport.Proofs.Export.Pages
/-!
# Walking with the cursors of the pages

A format that paginates by itself asks for one page after the other along a chain of
cursors. `OnPage` is what holds after so many pages, and each page keeps it. So a walk along
the whole chain sends one request for each page, and its documents, page by page, are what
the files hold.
-/
set_option autoImplicit false

namespace IndexExport.Export

namespace Job

def pageQuery (job : Job) (query : SelectQuery) (cursor : String) : SelectQuery :=
  (((query.set "rows" (toString job.rowsPerPage)).set "sort" cursorOrder).setOrRemove "fl"
    job.descriptor.fieldList).set "cursorMark" cursor

def walkQueries (job : Job) (query : SelectQuery) (responses : Nat → Select.Response) (n : Nat) :
    List SelectQuery :=
  (List.range n).map fun i => job.pageQuery query (cursorAt responses i)

theorem walkQueries_succ (job : Job) (query : SelectQuery) (responses : Nat → Select.Response)
    (n : Nat) : job.walkQueries query responses (n + 1) =
      job.walkQueries query responses n ++ [job.pageQuery query (cursorAt responses n)] := by
  rw [walkQueries, List.range_succ, List.map_append, List.map_singleton, walkQueries]

theorem length_walkQueries (job : Job) (query : SelectQuery) (responses : Nat → Select.Response)
    (n : Nat) : (job.walkQueries query responses n).length = n := by
  rw [walkQueries, List.length_map, List.length_range]

theorem prepare_query {job : Job} (native : job.descriptor.paginates = true) (p : Progress)
    (cursor : String) :
    (job.prepare p).query.set "cursorMark" cursor = job.pageQuery p.query cursor := by
  rw [prepare, if_pos native, applyFieldList, Progress.setOrRemove_query]
  rfl

/-- The query for another page differs in the cursor only. -/
theorem pageQuery_set (job : Job) (query : SelectQuery) (cursor next : String) :
    (job.pageQuery query cursor).set "cursorMark" next = job.pageQuery query next := by
  rw [pageQuery, SelectQuery.set_set, pageQuery]

theorem pageQuery_cursor (job : Job) (query : SelectQuery) (cursor : String) :
    (job.pageQuery query cursor).get? "cursorMark" = some cursor := by
  rw [pageQuery, SelectQuery.get?_set_self]

/-- After `i` pages of a chain of `n`. -/
structure OnPage (job : Job) (query : SelectQuery) (files : Storage.Tree)
    (responses : Nat → Select.Response) (n i : Nat) (state : State) (p : Progress) : Prop where
  stands : Stands responses n i state
  asks : ∀ cursor, p.query.set "cursorMark" cursor = job.pageQuery query cursor
  tally : Tally job files (fun j => pageOf (responses j).documents) (fun j => j + 1) i
    (job.walkQueries query responses i) none p

section Walk

variable {job : Job} {fetch : Fetcher} {query : SelectQuery} {files : Storage.Tree}
variable {responses : Nat → Select.Response} {n : Nat}

theorem onPage_start (native : job.descriptor.paginates = true) (chain : Chain responses n) :
    job.OnPage query files responses n 0 job.firstState (job.prepare (.start query files)) := by
  refine ⟨?_, prepare_query native _, ?_⟩
  · rw [firstState, if_pos native]
    exact chain.stands_zero
  · have tally : Tally job files (fun j => pageOf (responses j).documents) (fun j => j + 1) 0 []
        none ((Progress.start query files).set "rows" (toString job.rowsPerPage) |>.set "sort"
          cursorOrder) := .start rfl rfl rfl
    rw [prepare, if_pos native, applyFieldList]
    exact tally.congr (Progress.alike_setOrRemove _ "fl" _)

/-- One page: its request is answered, its documents are written, and the walk goes on or
ends as the cursor says. -/
theorem onPage_step (native : job.descriptor.paginates = true)
    (plain : job.Plain) (chain : Chain responses n)
    {i : Nat} (below : i < n) {body : String}
    (answered : Answered fetch i (job.pageQuery query (cursorAt responses i)) body)
    (held : Select.Response.read body = .ok (responses i))
    (writable : ∀ payload, pageOf (responses i).documents = some payload →
      Writable job files (i + 1) (i + 1) payload)
    {state : State} {p : Progress} (here : job.OnPage query files responses n i state p) :
    ∃ next after, job.step fetch state p = (.ok next, after) ∧
      job.OnPage query files responses n (i + 1) next after := by
  obtain ⟨cursor, rfl, before⟩ := here.stands.paging below
  have asks : ((p.tell (.fetchingPage cursor.page.toNat)).set "cursorMark" cursor.current).query =
      job.pageQuery query (cursorAt responses i) := by
    rw [← before.current, ← here.asks]
    rfl
  have turn : Answered fetch (job.walkQueries query responses i).length
      (job.pageQuery query (cursorAt responses i)) body := by
    rwa [length_walkQueries]
  obtain ⟨replied, reply, query', asked⟩ := here.tally.ask asks turn ⟨rfl, rfl, rfl⟩
  have count : (job.walkQueries query responses i ++
      [job.pageQuery query (cursorAt responses i)]).length = i + 1 := by
    rw [List.length_append, length_walkQueries, List.length_singleton]
  obtain ⟨after, wrote, query'', grown⟩ :=
    asked.writeDocuments plain before.page rfl count.symm (by rwa [count])
  refine ⟨follow cursor (cursorAt responses (i + 1)), after, ?_, ?_⟩
  · rw [step, if_pos native, pageStep]
    simp only [reply, readResponse_of_read _ held, wrote,
      cursorOf_of_cursor _ (chain.cursor_eq below)]
  · refine ⟨chain.stands_follow below before, ?_, ?_⟩
    · intro next
      rw [query'', query', pageQuery_set]
    · rw [walkQueries_succ]
      exact grown

/-- Along a chain of cursors an export in a format that paginates by itself finishes after
one request for each page. The documents of each page, if there are any, are in the file of
the page with the moment of its writing, and nothing else has changed. -/
theorem run_finished_of_chain (format : Format) (native : format.descriptor.paginates = true)
    (described : job.descriptor = format.descriptor) (chain : Chain responses n)
    (answered : ∀ i < n, ∃ body,
      Answered fetch i (job.pageQuery query (cursorAt responses i)) body ∧
      Select.Response.read body = .ok (responses i))
    (writable : ∀ i < n, (responses i).documents ≠ [] →
      Writable job files (i + 1) (i + 1) (.documents (responses i).documents))
    {fuel : Nat} (enough : n ≤ fuel) :
    ∃ p, job.run fetch fuel query files = .finished p ∧
      p.sent.map Request.query = job.walkQueries query responses n ∧
      p.sent.map (fun request => request.query.get? "cursorMark") =
        (List.range n).map (fun i => some (cursorAt responses i)) ∧
      p.report.requests = n ∧ p.report.documentsFound = none ∧
      p.report.documentsWritten =
        ((List.range n).map fun i => (responses i).documents.length).sum ∧
      p.report.files = ((List.range n).filter fun i => (responses i).documents ≠ []).map
        (fun i => job.pageFile (i + 1)) ∧
      (∀ i < n, (responses i).documents ≠ [] → ∃ content,
        job.descriptor.writer.content (job.occasion (i + 1)).moment
          (.documents (responses i).documents) = .ok content ∧
        p.files.read (job.pageFile (i + 1)) = .ok (.text content)) ∧
      ∀ place, (∀ path ∈ p.report.files, files.openForWriting path ≠ .ok place) →
        p.files.at? place = files.at? place := by
  rw [← described] at native
  have plain : job.Plain := plain_of_format described
  have steps : ∀ i < n, ∀ state p, job.OnPage query files responses n i state p →
      ∃ next after, job.step fetch state p = (.ok next, after) ∧
        job.OnPage query files responses n (i + 1) next after := by
    intro i below state p here
    obtain ⟨body, answer, held⟩ := answered i below
    apply onPage_step native plain chain below answer held _ here
    intro payload present
    obtain ⟨nonempty, rfl⟩ := pageOf_eq_some.mp present
    exact writable i below nonempty
  obtain ⟨p, finished, here⟩ := walk_of_steps steps (fun _ _ here => here.stands.done)
    (Nat.zero_le n) (onPage_start native chain) (by omega)
  have tally := here.tally
  refine ⟨p, finished, tally.sent, ?_, ?_, tally.found, ?_, ?_, ?_, tally.written.untouched⟩
  · have cursors := congrArg (List.map fun query => query.get? "cursorMark") tally.sent
    simpa only [walkQueries, List.map_map, Function.comp_def, pageQuery_cursor] using cursors
  · rw [tally.requests, length_walkQueries]
  · simp only [tally.written.documents, documentCount_pageOf]
  · simp only [tally.written.paths, isSome_pageOf]
  · intro i below nonempty
    exact tally.written.read below (pageOf_eq_some.mpr ⟨nonempty, rfl⟩)

end Walk

/-! Three pages, the first of which takes the place of another file. In XML the first and the last
of them are dated with the moments of their own writing. -/

def solrJob : Job := ⟨Format.solr.descriptor, 100, "out", counted⟩

def xmlJob : Job := ⟨Format.xml.descriptor, 100, "out", counted⟩

def oldFiles : Storage.Tree :=
  ⟨[(["out"], .directory), (["out", "page1.json"], .file (.text "old"))]⟩

theorem answered_threeBodies (job : Job) : ∀ i < 3, ∃ body,
    Answered (replying threeBodies) i (job.pageQuery default (cursorAt threeResponses i)) body ∧
    Select.Response.read body = .ok (threeResponses i) := by
  intro i below
  exact ⟨threeBodies.getD i "", answered_replying threeBodies i _, read_threeBodies i below⟩

theorem writable_threeResponses {job : Job} (either : job = solrJob ∨ job = xmlJob) :
    ∀ i < 3, (threeResponses i).documents ≠ [] →
      Writable job oldFiles (i + 1) (i + 1) (.documents (threeResponses i).documents) := by
  intro i below _
  obtain rfl | rfl | rfl : i = 0 ∨ i = 1 ∨ i = 2 := by omega
  · rcases either with rfl | rfl <;> rfl
  · rcases either with rfl | rfl <;> rfl
  · rcases either with rfl | rfl <;> rfl

theorem run_three_pages :
    (∃ p, solrJob.run (replying threeBodies) 3 default oldFiles = .finished p ∧
      p.report.requests = 3 ∧ p.report.documentsWritten = 2 ∧
      p.report.files = ["out/page1.json", "out/page3.json"] ∧
      p.files.read "out/page1.json" =
        .ok (.text "[\n  \x7b\n    \"id\": 1\n  \x7d\n]")) ∧
    ∃ p, xmlJob.run (replying threeBodies) 3 default oldFiles = .finished p ∧
      p.files.read "out/page1.xml" =
        .ok (.text (Page.xmlText "1" [.object [("id", .number (.whole 1))]])) ∧
      p.files.read "out/page3.xml" =
        .ok (.text (Page.xmlText "3" [.object [("id", .number (.whole 2))]])) := by
  refine ⟨?_, ?_⟩
  · obtain ⟨p, finished, -, -, requests, -, documents, paths, files, -⟩ :=
      run_finished_of_chain .solr rfl rfl chain_threeResponses (answered_threeBodies solrJob)
        (writable_threeResponses (.inl rfl)) (Nat.le_refl 3)
    obtain ⟨content, held, first⟩ := files 0 (by decide) (by decide)
    cases held
    exact ⟨p, finished, requests, documents, paths, first⟩
  · obtain ⟨p, finished, -, -, -, -, -, -, files, -⟩ :=
      run_finished_of_chain .xml rfl rfl chain_threeResponses (answered_threeBodies xmlJob)
        (writable_threeResponses (.inr rfl)) (Nat.le_refl 3)
    obtain ⟨content, held, first⟩ := files 0 (by decide) (by decide)
    obtain ⟨other, otherHeld, last⟩ := files 2 (by decide) (by decide)
    cases held
    cases otherHeld
    exact ⟨p, finished, first, last⟩

end Job

end IndexExport.Export
