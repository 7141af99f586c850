import IndexExport.Proofs.Export.Index
import IndexExport.Proofs.Text.Digits
import IndexExport.Proofs.Url.Form
/-!
# Complete exports

Against an index that answers as `Serves` says, an export finishes with each document of the
index in one file and in one place of it. Whether the cursor comes with the page or is asked
for apart, the documents are cut into the same pages; only the number of requests differs.
-/
set_option autoImplicit false

namespace IndexExport

theorem Text.natural?_toString (n : Nat) : Text.natural? (toString n).toList = some n := by
  rw [Nat.toString_eq_repr, Nat.toList_repr]
  exact Text.natural?_decimal n

namespace Export

namespace Job

/-- The files of the first pages can be opened, and the medium takes all that is written. -/
structure Opens (job : Job) (files : Storage.Tree) (pages : Nat) : Prop where
  free : ∀ i < pages, ∃ place, files.openForWriting (job.pageFile (i + 1)) = .ok place
  takes : ∀ sent, (job.occasion sent).medium = .takes

theorem Opens.writable {job : Job} {files : Storage.Tree} {pages i sent : Nat}
    (opens : job.Opens files pages) (below : i < pages) {payload : Page.Payload}
    {content : String}
    (held : job.descriptor.writer.content (job.occasion sent).moment payload = .ok content) :
    Writable job files sent (i + 1) payload := by
  obtain ⟨place, opened⟩ := opens.free i below
  exact (Page.Writer.write_of_open held opened (opens.takes sent)).1

/-- Each page of an index is in a file of its own, whenever it was written, and nothing else has
changed. -/
structure Exported (index : Index) (job : Job) (before : Storage.Tree) (p : Progress) : Prop where
  paths : p.report.files =
    (List.range (index.pages job.rowsPerPage)).map fun i => job.pageFile (i + 1)
  documents : p.report.documentsWritten = index.size
  stands : ∀ i < index.pages job.rowsPerPage, ∃ content,
    (∀ moment, job.descriptor.writer.content moment
      (.documents (index.page job.rowsPerPage i)) = .ok content) ∧
    p.files.read (job.pageFile (i + 1)) = .ok (.text content)
  untouched : ∀ place, (∀ path ∈ p.report.files, before.openForWriting path ≠ .ok place) →
    p.files.at? place = before.at? place

theorem filter_range_lt {few many : Nat} (le : few ≤ many) :
    (List.range many).filter (fun i => decide (i < few)) = List.range few := by
  induction le with
  | refl =>
      apply List.filter_eq_self.mpr
      intro i member
      exact decide_eq_true (List.mem_range.mp member)
  | @step many le ih =>
      have past : ¬many < few := Nat.not_lt_of_le le
      rw [List.range_succ, List.filter_append, ih, List.filter_singleton]
      simp [past]

section Index

variable {index : Index} {job : Job} {fetch : Fetcher} {query : SelectQuery}
variable {files : Storage.Tree} {p : Progress} {fuel : Nat}

/-- What was written page by page is the whole index. -/
theorem exported_of_written (positive : 0 < job.rowsPerPage)
    (undated : job.descriptor.writer ≠ .xml) {payloadAt : Nat → Option Page.Payload}
    {sentAt : Nat → Nat} {n : Nat} (written : Written job files payloadAt sentAt n p)
    (payloads : ∀ i < n, payloadAt i = pageOf (index.page job.rowsPerPage i))
    (covers : index.pages job.rowsPerPage ≤ n) : Exported index job files p := by
  refine ⟨?_, ?_, ?_, written.untouched⟩
  · have some : ∀ i ∈ List.range n,
        (payloadAt i).isSome = decide (i < index.pages job.rowsPerPage) := by
      intro i member
      rw [payloads i (List.mem_range.mp member), isSome_pageOf]
      exact decide_eq_decide.mpr (Index.page_ne_nil_iff positive)
    rw [written.paths, List.filter_congr some, filter_range_lt covers]
  · have counts : ∀ i ∈ List.range n,
        documentCount (payloadAt i) = (index.page job.rowsPerPage i).length := by
      intro i member
      rw [payloads i (List.mem_range.mp member), documentCount_pageOf]
    rw [written.documents, List.map_congr_left counts, ← List.length_flatMap,
      Index.flatMap_pages positive covers, Index.size]
  · intro i below
    have within : i < n := Nat.lt_of_lt_of_le below covers
    have page : payloadAt i = some (.documents (index.page job.rowsPerPage i)) := by
      rw [payloads i within, pageOf, if_neg ((Index.page_ne_nil_iff positive).mpr below)]
    obtain ⟨content, held, read⟩ := written.read within page
    refine ⟨content, ?_, read⟩
    intro moment
    rw [← held, Page.Writer.content_of_ne_xml undated]

/-! ## The cursor comes with the page -/

theorem pageQuery_of_solr (described : job.descriptor = Format.solr.descriptor)
    (query : SelectQuery) (cursor : String) :
    Requested query job.rowsPerPage (job.pageQuery query cursor) ∧
      (job.pageQuery query cursor).get? "fl" = none := by
  have asks : job.pageQuery query cursor =
      (((query.set "rows" (toString job.rowsPerPage)).set "sort" cursorOrder).remove "fl").set
        "cursorMark" cursor := by
    rw [pageQuery, described]
    rfl
  rw [asks]
  refine ⟨⟨rfl, rfl, ?_⟩, ?_⟩
  · rw [SelectQuery.get?_set_other (by decide), SelectQuery.get?_remove_other (by decide),
      SelectQuery.get?_set_other (by decide), SelectQuery.get?_set_self]
  · rw [SelectQuery.get?_set_other (by decide), SelectQuery.get?_remove_self]

/-- One request for each page, and one for the empty page behind them. -/
theorem run_natively (described : job.descriptor = Format.solr.descriptor)
    (positive : 0 < job.rowsPerPage) (few : index.pages job.rowsPerPage + 1 < UInt32.size)
    (serves : Serves index job.rowsPerPage query fetch)
    (opens : job.Opens files (index.pages job.rowsPerPage))
    (enough : index.pages job.rowsPerPage + 1 ≤ fuel) :
    ∃ p, job.run fetch fuel query files = .finished p ∧
      p.sent.length = index.pages job.rowsPerPage + 1 ∧
      p.report.requests = index.pages job.rowsPerPage + 1 ∧ Exported index job files p := by
  have native : job.descriptor.paginates = true := by rw [described]; rfl
  have answers : ∀ i, ∃ body response,
      Replied fetch i (job.pageQuery query (index.mark (index.place job.rowsPerPage i))) body
        response ∧
      response.documents = index.page job.rowsPerPage i ∧
      response.cursor? = some (index.mark (index.place job.rowsPerPage (i + 1))) := by
    intro i
    obtain ⟨requested, fields⟩ := pageQuery_of_solr described query
      (index.mark (index.place job.rowsPerPage i))
    obtain ⟨body, response, replied, ⟨-, whole⟩, next⟩ :=
      serves.page i requested (job.pageQuery_cursor query _)
    exact ⟨body, response, replied, whole fields, next⟩
  choose bodies responses replied documents marks using answers
  have chain := Index.chain marks positive few
  have steps : ∀ i < index.pages job.rowsPerPage + 1, ∀ state p,
      job.OnPage query files responses (index.pages job.rowsPerPage + 1) i state p →
      ∃ next after, job.step fetch state p = (.ok next, after) ∧
        job.OnPage query files responses (index.pages job.rowsPerPage + 1) (i + 1) next after := by
    intro i below state p here
    obtain ⟨answered, held⟩ := replied i
    rw [← Index.cursorAt_eq marks] at answered
    apply onPage_step native (plain_of_format described) chain below answered held _ here
    intro payload present
    rw [documents] at present
    obtain ⟨nonempty, rfl⟩ := pageOf_eq_some.mp present
    have content : job.descriptor.writer.content (job.occasion (i + 1)).moment
        (.documents (index.page job.rowsPerPage i)) =
          .ok (Json.list (index.page job.rowsPerPage i)).pretty := by
      rw [described]
      rfl
    exact opens.writable ((Index.page_ne_nil_iff positive).mp nonempty) content
  obtain ⟨p, finished, here⟩ := walk_of_steps steps (fun _ _ here => here.stands.done)
    (Nat.zero_le _) (onPage_start native chain) (show _ - 0 ≤ fuel from enough)
  have tally := here.tally
  refine ⟨p, finished, ?_, ?_, ?_⟩
  · rw [tally.length, length_walkQueries]
  · rw [tally.requests, length_walkQueries]
  · have undated : job.descriptor.writer ≠ .xml := by
      rw [described]
      exact Page.Writer.noConfusion
    exact exported_of_written positive undated tally.written (fun i _ => by rw [documents])
      (Nat.le_succ _)

/-! ## The cursor is asked for apart -/

theorem requested_countQuery (unmarked : query.get? "cursorMark" = none) :
    Requested query 0 (countQuery query) ∧ (countQuery query).get? "cursorMark" = none := by
  refine ⟨⟨rfl, rfl, ?_⟩, ?_⟩
  · rw [countQuery, SelectQuery.get?_remove_other (by decide),
      SelectQuery.get?_set_other (by decide), SelectQuery.get?_set_self]
    rfl
  · rw [countQuery, SelectQuery.get?_remove_other (by decide),
      SelectQuery.get?_set_other (by decide), SelectQuery.get?_set_other (by decide), unmarked]

theorem requested_metaQuery (job : Job) (query : SelectQuery) (cursor : String) :
    Requested query job.rowsPerPage (job.metaQuery query cursor) := by
  refine ⟨rfl, rfl, ?_⟩
  simp (disch := decide) only [metaQuery, cursorQuery, restricted, SelectQuery.get?_set_other,
    SelectQuery.get?_set_self]

/-- A request for data is for as many rows and from the same mark, with all fields. -/
theorem dataQuery_of_flatCsv (described : job.descriptor = Format.flatCsv.descriptor) {rows : Nat}
    {asked : SelectQuery} (requested : Requested query rows asked) :
    Requested query rows (job.dataQuery asked) ∧
      (job.dataQuery asked).get? "cursorMark" = asked.get? "cursorMark" ∧
      (job.dataQuery asked).get? "fl" = none := by
  have asks : job.dataQuery asked = (asked.set "wt" "json").remove "fl" := by
    rw [dataQuery, described]
    rfl
  rw [asks]
  refine ⟨⟨requested.base, requested.text, ?_⟩, ?_, SelectQuery.get?_remove_self ..⟩
  · rw [SelectQuery.get?_remove_other (by decide), SelectQuery.get?_set_other (by decide),
      requested.rows]
  · rw [SelectQuery.get?_remove_other (by decide), SelectQuery.get?_set_other (by decide)]

theorem requested_singleQuery (described : job.descriptor = Format.flatCsv.descriptor)
    (unmarked : query.get? "cursorMark" = none) (total : Nat) :
    Requested query total (job.singleQuery query total) ∧
      (job.singleQuery query total).get? "cursorMark" = none ∧
      (job.singleQuery query total).get? "fl" = none := by
  have sized : Requested query total ((countQuery query).set "rows" (toString total)) :=
    ⟨rfl, rfl, SelectQuery.get?_set_self ..⟩
  obtain ⟨requested, mark, fields⟩ := dataQuery_of_flatCsv described sized
  refine ⟨requested, ?_, fields⟩
  rw [singleQuery, mark, SelectQuery.get?_set_other (by decide),
    (requested_countQuery unmarked).2]

/-- Documents that are read from an answer can be written to a page. -/
theorem data_of_flatCsv (described : job.descriptor = Format.flatCsv.descriptor) {body : String}
    {response : Select.Response} (held : Select.Response.read body = .ok response)
    {pages i : Nat} (opens : job.Opens files pages) (below : i < pages) (sent : Nat) :
    (some body).bind job.payloadOf = pageOf response.documents ∧ Readable job body ∧
      ∀ payload, job.payloadOf body = some payload → Writable job files sent (i + 1) payload := by
  have table : (some body).bind job.payloadOf = pageOf response.documents := by
    rw [bind_payloadOf_flatCsv described, documentsOf, Option.elim, documentsIn, held]
  refine ⟨table, fun _ => ⟨response, held⟩, ?_⟩
  intro payload present
  have page : job.payloadOf body = pageOf response.documents := table
  rw [page] at present
  obtain ⟨-, rfl⟩ := pageOf_eq_some.mp present
  obtain ⟨content, written⟩ : ∃ content, job.descriptor.writer.content (job.occasion sent).moment
      (.documents response.documents) = .ok content := by
    rw [described]
    exact Page.tableContent_eq_ok response.documents
  exact opens.writable below written

theorem undated_of_flatCsv (described : job.descriptor = Format.flatCsv.descriptor) :
    job.descriptor.writer ≠ .xml := by
  rw [described]
  exact Page.Writer.noConfusion

/-- One request, for the count. -/
theorem run_without_documents (described : job.descriptor = Format.flatCsv.descriptor)
    (positive : 0 < job.rowsPerPage) (serves : Serves index job.rowsPerPage query fetch)
    (unmarked : query.get? "cursorMark" = none) (none : index.size = 0) (enough : 1 ≤ fuel) :
    ∃ p, job.run fetch fuel query files = .finished p ∧ p.sent.length = 1 ∧
      p.report.requests = 1 ∧ Exported index job files p := by
  have bulk : job.descriptor.paginates = false := by rw [described]; rfl
  obtain ⟨counts, free⟩ := requested_countQuery unmarked
  obtain ⟨body, response, ⟨answered, held⟩, -, counted⟩ :=
    serves.unmarked 0 (countQuery query) 0 counts free
  rw [none] at counted
  obtain ⟨p, finished, tally⟩ := run_of_nothing bulk files answered held counted enough
  refine ⟨p, finished, tally.length, tally.requests, ?_⟩
  apply exported_of_written positive (undated_of_flatCsv described) tally.written
  · exact fun i below => absurd below (Nat.not_lt_zero i)
  · exact Nat.le_of_eq ((Index.pages_eq_zero_iff positive).mpr none)

/-- All documents at once are the first page. -/
theorem run_at_once (described : job.descriptor = Format.flatCsv.descriptor)
    (serves : Serves index job.rowsPerPage query fetch)
    (unmarked : query.get? "cursorMark" = none)
    (opens : job.Opens files (index.pages job.rowsPerPage))
    (some : 0 < index.size) (small : index.size < job.rowsPerPage) (enough : 2 ≤ fuel) :
    ∃ p, job.run fetch fuel query files = .finished p ∧ p.sent.length = 2 ∧
      p.report.requests = 2 ∧ Exported index job files p := by
  have positive : 0 < job.rowsPerPage := Nat.lt_trans some small
  have bulk : job.descriptor.paginates = false := by rw [described]; rfl
  have one : index.pages job.rowsPerPage = 1 := Index.pages_eq_one positive some small
  obtain ⟨counts, free⟩ := requested_countQuery unmarked
  obtain ⟨body, response, ⟨answered, held⟩, -, counted⟩ :=
    serves.unmarked 0 (countQuery query) 0 counts free
  obtain ⟨requested, mark, fields⟩ := requested_singleQuery described unmarked index.size
  obtain ⟨data, documents, ⟨dataAnswered, dataHeld⟩, ⟨-, whole⟩, -⟩ :=
    serves.unmarked 1 _ index.size requested mark
  obtain ⟨table, readable, writable⟩ :=
    data_of_flatCsv described dataHeld opens (show 0 < _ by rw [one]; exact Nat.one_pos) 2
  obtain ⟨p, finished, tally⟩ := run_of_few bulk (plain_of_format described) answered held counted
    some small dataAnswered readable writable enough
  refine ⟨p, finished, tally.length, tally.requests, ?_⟩
  apply exported_of_written positive (undated_of_flatCsv described) tally.written _
    (Nat.le_of_eq one)
  intro i below
  obtain rfl : i = 0 := by omega
  rw [table, whole fields, Index.slice_zero (Nat.le_refl _), Index.page, Nat.zero_mul,
    Index.slice_zero (Nat.le_of_lt small)]

/-- Where all pages before one have documents, each of them took two requests. -/
theorem requestsBefore_of_filled {metas : Nat → Select.Response} {i : Nat}
    (filled : ∀ j < i, (metas j).documents ≠ []) : requestsBefore metas i = 1 + 2 * i := by
  have all : ∀ j ∈ List.range i, decide ((metas j).documents ≠ []) = true := by
    intro j member
    exact decide_eq_true (filled j (List.mem_range.mp member))
  rw [requestsBefore, List.filter_eq_self.mpr all, List.length_range]
  omega

/-- The answers to both requests for each page. -/
theorem replied_in_bulk (described : job.descriptor = Format.flatCsv.descriptor)
    (serves : Serves index job.rowsPerPage query fetch) (i : Nat) :
    (∃ body response,
      Replied fetch (1 + 2 * i)
        (job.metaQuery query (index.mark (index.place job.rowsPerPage i))) body response ∧
      response.documents.length = (index.page job.rowsPerPage i).length ∧
      response.cursor? = some (index.mark (index.place job.rowsPerPage (i + 1)))) ∧
    ∃ body response,
      Replied fetch (1 + 2 * i + 1)
        (job.dataQuery (job.metaQuery query (index.mark (index.place job.rowsPerPage i)))) body
        response ∧
      response.documents = index.page job.rowsPerPage i := by
  have mark := job.metaQuery_cursor query (index.mark (index.place job.rowsPerPage i))
  have listing := requested_metaQuery job query (index.mark (index.place job.rowsPerPage i))
  refine ⟨?_, ?_⟩
  · obtain ⟨body, response, replied, ⟨length, -⟩, next⟩ := serves.page (1 + 2 * i) listing mark
    exact ⟨body, response, replied, length, next⟩
  · obtain ⟨data, same, fields⟩ := dataQuery_of_flatCsv described listing
    obtain ⟨body, response, replied, ⟨-, whole⟩, -⟩ :=
      serves.page (1 + 2 * i + 1) data (same.trans mark)
    exact ⟨body, response, replied, whole fields⟩

/-- The walk in bulk goes through the pages of the index, with data for all but the one behind
them. -/
theorem served_of_index (described : job.descriptor = Format.flatCsv.descriptor)
    (positive : 0 < job.rowsPerPage) (few : index.pages job.rowsPerPage + 1 < UInt32.size)
    (serves : Serves index job.rowsPerPage query fetch)
    (opens : job.Opens files (index.pages job.rowsPerPage)) :
    ∃ metas bodies,
      Served job fetch query files metas bodies (index.pages job.rowsPerPage + 1) ∧
      (∀ i, (metas i).documents = [] ↔ index.pages job.rowsPerPage ≤ i) ∧
      ∀ i, (dataAt metas bodies i).bind job.payloadOf =
        pageOf (index.page job.rowsPerPage i) := by
  have listings := fun i => (replied_in_bulk described serves i).1
  have data := fun i => (replied_in_bulk described serves i).2
  choose pages metas listed lengths marks using listings
  choose bodies tables replied documents using data
  have empty : ∀ i, (metas i).documents = [] ↔ index.pages job.rowsPerPage ≤ i := by
    intro i
    rw [← List.length_eq_zero_iff, lengths, List.length_eq_zero_iff,
      Index.page_eq_nil_iff positive]
  have inside : ∀ i, (metas i).documents ≠ [] → i < index.pages job.rowsPerPage := by
    intro i nonempty
    exact Nat.not_le.mp (mt (empty i).mpr nonempty)
  have before : ∀ i ≤ index.pages job.rowsPerPage, requestsBefore metas i = 1 + 2 * i := by
    intro i within
    apply requestsBefore_of_filled
    intro j below none
    have past := (empty j).mp none
    omega
  refine ⟨metas, bodies, ⟨Index.chain marks positive few, ?_, ?_⟩, empty, ?_⟩
  · intro i below
    rw [before i (by omega), Index.cursorAt_eq marks]
    exact ⟨pages i, listed i⟩
  · intro i below nonempty
    obtain ⟨-, readable, writable⟩ :=
      data_of_flatCsv described (replied i).2 opens (inside i nonempty) (1 + 2 * i + 2)
    rw [before i (by omega), Index.cursorAt_eq marks]
    exact ⟨(replied i).1, readable, writable⟩
  · intro i
    rw [dataAt]
    split_ifs with none
    · rw [Option.bind_none, (Index.page_eq_nil_iff positive).mpr ((empty i).mp none)]
      rfl
    · rw [(data_of_flatCsv described (replied i).2 opens (inside i none) 0).1, documents]

/-- Two requests for each page, one for the count and one for the empty page behind them. -/
theorem run_in_bulk (described : job.descriptor = Format.flatCsv.descriptor)
    (positive : 0 < job.rowsPerPage) (few : index.pages job.rowsPerPage + 1 < UInt32.size)
    (serves : Serves index job.rowsPerPage query fetch)
    (unmarked : query.get? "cursorMark" = none)
    (opens : job.Opens files (index.pages job.rowsPerPage))
    (many : job.rowsPerPage ≤ index.size)
    (enough : index.pages job.rowsPerPage + 2 ≤ fuel) :
    ∃ p, job.run fetch fuel query files = .finished p ∧
      p.sent.length = 2 * index.pages job.rowsPerPage + 2 ∧
      p.report.requests = 2 * index.pages job.rowsPerPage + 2 ∧ Exported index job files p := by
  have bulk : Format.flatCsv.descriptor.paginates = false := rfl
  obtain ⟨counts, free⟩ := requested_countQuery unmarked
  obtain ⟨body, response, ⟨answered, held⟩, -, counted⟩ :=
    serves.unmarked 0 (countQuery query) 0 counts free
  obtain ⟨metas, bodies, served, empty, payloads⟩ :=
    served_of_index described positive few serves opens
  obtain ⟨p, finished, tally⟩ :=
    run_of_many bulk described positive answered held counted many served enough
  have sent : (job.bulkQueries query metas (index.pages job.rowsPerPage + 1)).length =
      2 * index.pages job.rowsPerPage + 2 := by
    have filled : ∀ j < index.pages job.rowsPerPage, (metas j).documents ≠ [] := by
      intro j below none
      exact Nat.not_le_of_lt below ((empty j).mp none)
    rw [length_bulkQueries, requestsBefore_succ, requestsBefore_of_filled filled,
      if_pos ((empty _).mpr (Nat.le_refl _))]
    omega
  refine ⟨p, finished, tally.length.trans sent, tally.requests.trans sent, ?_⟩
  exact exported_of_written positive (undated_of_flatCsv described) tally.written
    (fun i _ => payloads i) (Nat.le_succ _)

/-! ## Both -/

/-- Against an index that answers, an export of a query without a mark of its own finishes with
each document in one place of one page. Both formats cut the index into the same pages, of which
all but the last are full. -/
theorem run_exports_each_document (positive : 0 < job.rowsPerPage)
    (few : index.pages job.rowsPerPage + 1 < UInt32.size)
    (serves : Serves index job.rowsPerPage query fetch)
    (unmarked : query.get? "cursorMark" = none)
    (opens : job.Opens files (index.pages job.rowsPerPage)) :
    (List.range (index.pages job.rowsPerPage)).flatMap (index.page job.rowsPerPage) =
      index.documents ∧
    (∀ i, i + 1 < index.pages job.rowsPerPage →
      (index.page job.rowsPerPage i).length = job.rowsPerPage) ∧
    (job.descriptor = Format.solr.descriptor →
      ∀ fuel, index.pages job.rowsPerPage + 1 ≤ fuel →
        ∃ p, job.run fetch fuel query files = .finished p ∧
          p.sent.length = index.pages job.rowsPerPage + 1 ∧
          p.report.requests = index.pages job.rowsPerPage + 1 ∧ Exported index job files p) ∧
    (job.descriptor = Format.flatCsv.descriptor →
      (index.size = 0 → ∀ fuel, 1 ≤ fuel →
        ∃ p, job.run fetch fuel query files = .finished p ∧ p.sent.length = 1 ∧
          p.report.requests = 1 ∧ Exported index job files p) ∧
      (0 < index.size → index.size < job.rowsPerPage → ∀ fuel, 2 ≤ fuel →
        ∃ p, job.run fetch fuel query files = .finished p ∧ p.sent.length = 2 ∧
          p.report.requests = 2 ∧ Exported index job files p) ∧
      (job.rowsPerPage ≤ index.size → ∀ fuel, index.pages job.rowsPerPage + 2 ≤ fuel →
        ∃ p, job.run fetch fuel query files = .finished p ∧
          p.sent.length = 2 * index.pages job.rowsPerPage + 2 ∧
          p.report.requests = 2 * index.pages job.rowsPerPage + 2 ∧
          Exported index job files p)) := by
  refine ⟨Index.flatMap_pages positive (Nat.le_refl _), fun i => Index.length_page positive,
    ?_, ?_⟩
  · intro described fuel enough
    exact run_natively described positive few serves opens enough
  · intro described
    refine ⟨?_, ?_, ?_⟩
    · intro none fuel enough
      exact run_without_documents described positive serves unmarked none enough
    · intro some small fuel enough
      exact run_at_once described serves unmarked opens some small enough
    · intro many fuel enough
      exact run_in_bulk described positive few serves unmarked opens many enough

end Index

/-! An index of three documents, which reads what is asked for out of the address, and exports
of two documents to a page. -/

def threeDocuments : List Json := [1, 2, 3].map fun n => .object [("id", .number (.whole n))]

def starMark (place : Nat) : String := String.ofList ('*' :: List.replicate place '+')

theorem length_starMark (place : Nat) : (starMark place).toList.length = place + 1 := by
  rw [starMark, String.toList_ofList, List.length_cons, List.length_replicate]

theorem starMark_injective : Function.Injective starMark := by
  intro m n same
  have lengths := congrArg (fun mark => mark.toList.length) same
  simp only [length_starMark] at lengths
  exact Nat.succ.inj lengths

def threeIndex : Index := ⟨threeDocuments, starMark, starMark_injective, rfl⟩

def sliceBody (start count : Nat) : String :=
  (Json.object [("response", .object [("numFound", .number (.whole 3)),
      ("docs", .list ((threeDocuments.drop start).take count))]),
    ("nextCursorMark", .text (starMark (start + count)))]).compact

def sliceResponse (start count : Nat) : Select.Response :=
  ⟨some ⟨some 3, some (.list ((threeDocuments.drop start).take count))⟩,
    some (starMark (start + count))⟩

def threeServer : Fetcher := fun _ url =>
  let asked := (url.query.bind Url.Form.decode).getD []
  let start := (Parameters.get? "cursorMark" asked).elim 0 fun mark => mark.toList.length - 1
  let rows := ((Parameters.get? "rows" asked).bind fun rows => Text.natural? rows.toList).getD 0
  (.ok ⟨200, sliceBody start (min rows (3 - start))⟩, [])

theorem read_sliceBody {start count : Nat} (within : start + count ≤ 3) :
    Select.Response.read (sliceBody start count) = .ok (sliceResponse start count) := by
  rw [Select.Response.read, sliceBody, Json.compact, String.toList_ofList]
  obtain rfl | rfl | rfl | rfl : start = 0 ∨ start = 1 ∨ start = 2 ∨ start = 3 := by omega
  · obtain rfl | rfl | rfl | rfl : count = 0 ∨ count = 1 ∨ count = 2 ∨ count = 3 := by omega
    all_goals rfl
  · obtain rfl | rfl | rfl : count = 0 ∨ count = 1 ∨ count = 2 := by omega
    all_goals rfl
  · obtain rfl | rfl : count = 0 ∨ count = 1 := by omega
    all_goals rfl
  · obtain rfl : count = 0 := by omega
    rfl

theorem answered_threeServer (before : Nat) {asked : SelectQuery} {rows : Nat}
    (requested : Requested default rows asked) {start : Nat}
    (place : ((asked.get? "cursorMark").elim 0 fun mark => mark.toList.length - 1) = start) :
    Answered threeServer before asked (sliceBody start (min rows (3 - start))) := by
  have bare : asked.base.query = none := congrArg Url.query requested.base
  have pairs : (asked.url.query.bind Url.Form.decode).getD [] = asked.pairs := by
    simp only [SelectQuery.url, bare, Option.bind_some, Url.Form.decode_encode, Option.getD_some]
  have mark : Parameters.get? "cursorMark" asked.pairs = asked.get? "cursorMark" := rfl
  have count : Parameters.get? "rows" asked.pairs = some (toString rows) := requested.rows
  refine ⟨⟨200, _⟩, rfl, rfl, ?_⟩
  simp only [pairs, mark, count, place, Option.bind_some, Text.natural?_toString,
    Option.getD_some]

theorem slice_threeIndex (rows start : Nat) :
    threeIndex.slice rows start = (threeDocuments.drop start).take (min rows (3 - start)) := by
  rw [Index.slice, List.take_eq_take_min, List.length_drop]
  rfl

theorem serves_threeServer : Serves threeIndex 2 default threeServer := by
  have shows : ∀ asked rows start, Shows asked (threeIndex.slice rows start)
      (sliceResponse start (min rows (3 - start))) := by
    intro asked rows start
    rw [slice_threeIndex]
    exact ⟨rfl, fun _ => rfl⟩
  refine ⟨?_, ?_⟩
  · intro before asked start requested mark within
    have place : ((asked.get? "cursorMark").elim 0 fun mark => mark.toList.length - 1) = start := by
      rw [mark]
      exact congrArg (· - 1) (length_starMark start)
    have inside : start ≤ 3 := within
    have next : start + min 2 (3 - start) = min (start + 2) 3 := by omega
    refine ⟨_, _, ⟨answered_threeServer before requested place, read_sliceBody (by omega)⟩,
      shows asked 2 start, ?_, rfl⟩
    exact congrArg (fun place => some (starMark place)) next
  · intro before asked count requested unmarked
    have place : ((asked.get? "cursorMark").elim 0 fun mark => mark.toList.length - 1) = 0 := by
      rw [unmarked]
      rfl
    exact ⟨_, _, ⟨answered_threeServer before requested place, read_sliceBody (by omega)⟩,
      shows asked count 0, rfl⟩

def pairJob (format : Format) : Job := ⟨format.descriptor, 2, "out", counted⟩

theorem run_exports_three :
    (∃ p, (pairJob .solr).run threeServer 3 default emptyDirectory = .finished p ∧
      p.report.requests = 3 ∧ p.report.files = ["out/page1.json", "out/page2.json"] ∧
      p.files.read "out/page2.json" = .ok (.text "[\n  \x7b\n    \"id\": 3\n  \x7d\n]")) ∧
    (∃ p, (pairJob .flatCsv).run threeServer 4 default emptyDirectory = .finished p ∧
      p.report.requests = 6 ∧ p.report.files = ["out/page1.csv", "out/page2.csv"] ∧
      p.files.read "out/page2.csv" = .ok (.text "id\n3\n")) := by
  have pages : threeIndex.pages 2 = 2 := rfl
  have few : threeIndex.pages 2 + 1 < UInt32.size := by rw [pages]; decide
  have opens : ∀ format, (pairJob format).Opens emptyDirectory (threeIndex.pages 2) := by
    intro format
    refine ⟨?_, fun _ => rfl⟩
    intro i below
    rw [pages] at below
    obtain rfl | rfl : i = 0 ∨ i = 1 := by omega
    · cases format <;> exact ⟨_, rfl⟩
    · cases format <;> exact ⟨_, rfl⟩
  refine ⟨?_, ?_⟩
  · have positive : 0 < (pairJob .solr).rowsPerPage := by decide
    obtain ⟨-, -, natively, -⟩ :=
      run_exports_each_document positive few serves_threeServer rfl (opens .solr)
    obtain ⟨p, finished, -, requests, exported⟩ := natively rfl 3 (Nat.le_refl 3)
    obtain ⟨content, held, read⟩ := exported.stands 1 (by decide)
    cases held ""
    exact ⟨p, finished, requests, exported.paths, read⟩
  · have positive : 0 < (pairJob .flatCsv).rowsPerPage := by decide
    obtain ⟨-, -, -, inBulk⟩ :=
      run_exports_each_document positive few serves_threeServer rfl (opens .flatCsv)
    obtain ⟨-, -, many⟩ := inBulk rfl
    obtain ⟨p, finished, -, requests, exported⟩ := many (by decide) 4 (Nat.le_refl 4)
    obtain ⟨content, held, read⟩ := exported.stands 1 (by decide)
    cases held ""
    exact ⟨p, finished, requests, exported.paths, read⟩

end Job

end Export

end IndexExport
