import IndexExport.Export.Walk
import IndexExport.Proofs.Export.Requests
import IndexExport.Proofs.Page.Writing
import IndexExport.Proofs.Storage.Writing
import Mathlib.Algebra.Ring.Nat
/-!
# The files of the pages

A page that has a payload is written to a file of its own, numbered from one. `Written`
says of the first `count` pages that their files are listed in order, that their documents
are counted, that each file holds what the writer makes of the payload, and that nothing
else has changed. It is kept by a page without payload and by one that is written. `Tally`
is all that an export has to show, with the requests that were sent.

Whether a page can be written is asked of the files before the export: no page stands in
the way of another one.
-/
set_option autoImplicit false

namespace IndexExport.Export

/-! ## Names -/

def pageName (extension : String) (page : Nat) : String :=
  "page" ++ toString page ++ "." ++ extension

theorem toString_injective {m n : Nat} (same : toString m = toString n) : m = n := by
  have digits : Nat.toDigits 10 m = Nat.toDigits 10 n := by
    have chars := congrArg String.toList same
    rwa [Nat.toString_eq_repr, Nat.toString_eq_repr, Nat.toList_repr, Nat.toList_repr] at chars
  rw [← Nat.ofDigitChars_toDigits (b := 10) (n := m) (by decide) (by decide), digits,
    Nat.ofDigitChars_toDigits (by decide) (by decide)]

theorem pageName_injective {extension : String} {m n : Nat}
    (same : pageName extension m = pageName extension n) : m = n := by
  simp only [pageName, String.append_left_inj, String.append_right_inj] at same
  exact toString_injective same

theorem pageName_plain {extension : String} (plain : ∀ c ∈ extension.toList, c ≠ '/')
    (page : Nat) : ∀ c ∈ (pageName extension page).toList, c ≠ '/' := by
  intro c member
  simp only [pageName, String.toList_append, List.mem_append] at member
  rcases member with ((lead | digit) | dot) | ext
  · rintro rfl
    exact absurd lead (by decide)
  · rintro rfl
    rw [Nat.toString_eq_repr, Nat.toList_repr] at digit
    exact absurd (Nat.isDigit_of_mem_toDigits (by decide) (by decide) digit) (by decide)
  · rintro rfl
    exact absurd dot (by decide)
  · exact plain c ext

namespace Job

/-- The names of the pages do not lead elsewhere. -/
def Plain (job : Job) : Prop := ∀ c ∈ job.descriptor.extension.toList, c ≠ '/'

theorem plain_of_format {job : Job} {format : Format}
    (described : job.descriptor = format.descriptor) : job.Plain := by
  have none : format.descriptor.extension.toList.all (fun c => c ≠ '/') = true := by
    cases format <;> rfl
  intro c member
  rw [described] at member
  exact of_decide_eq_true (List.all_eq_true.mp none c member)

def pageFile (job : Job) (page : Nat) : String :=
  Storage.join job.directory (pageName job.descriptor.extension page)

theorem pagePath_eq_pageFile (job : Job) (page : UInt32) :
    job.pagePath page = job.pageFile page.toNat := rfl

/-- Pages of different numbers are written to different places. -/
theorem page_of_place {job : Job} {tree : Storage.Tree} {place : Storage.Place} {m n : Nat}
    (plain : job.Plain)
    (first : tree.openForWriting (job.pageFile m) = .ok place)
    (second : tree.openForWriting (job.pageFile n) = .ok place) : m = n := by
  have firstName := Storage.Tree.getLast?_of_openForWriting first
  have secondName := Storage.Tree.getLast?_of_openForWriting second
  rw [pageFile, Storage.getLast?_pieces_join (pageName_plain plain m)] at firstName
  rw [pageFile, Storage.getLast?_pieces_join (pageName_plain plain n), firstName] at secondName
  exact pageName_injective (Option.some.inj secondName)

/-! ## Writing one page -/

/-- After so many requests the writer takes the payload of a page, its file can be opened, and the
medium takes the whole of it. -/
def Writable (job : Job) (files : Storage.Tree) (sent page : Nat) (payload : Page.Payload) : Prop :=
  (job.descriptor.writer.write (job.occasion sent) payload (job.pageFile page) files).result =
    .ok ()

theorem writePayload_of_write {job : Job} {page : UInt32} {payload : Page.Payload}
    {p : Progress} (wrote : (job.descriptor.writer.write (job.occasion p.sent.length) payload
      (job.pagePath page) p.files).result = .ok ()) :
    ∃ after, job.writePayload page payload p = (.ok (), after) ∧ after.query = p.query ∧
      after.sent = p.sent ∧
      after.files = (job.descriptor.writer.write (job.occasion p.sent.length) payload
        (job.pagePath page) p.files).files ∧
      after.report = { p.report with files := p.report.files ++ [job.pagePath page] } := by
  rw [writePayload]
  simp only [wrote]
  exact ⟨_, rfl, rfl, rfl, rfl, rfl⟩

/-! ## All pages up to one -/

/-- How many documents a page adds. -/
def documentCount : Option Page.Payload → Nat
  | some (.documents items) => items.length
  | _ => 0

/-- The first `count` pages are written to the files there were before, each that has a
payload to a file of its own, and after so many requests as `sentAt` says. -/
structure Written (job : Job) (before : Storage.Tree) (payloadAt : Nat → Option Page.Payload)
    (sentAt : Nat → Nat) (count : Nat) (p : Progress) : Prop where
  paths : p.report.files =
    ((List.range count).filter fun i => (payloadAt i).isSome).map fun i => job.pageFile (i + 1)
  documents : p.report.documentsWritten =
    ((List.range count).map fun i => documentCount (payloadAt i)).sum
  opens : ∀ path place, before.openForWriting path = .ok place →
    p.files.openForWriting path = .ok place
  stands : ∀ i < count, ∀ payload, payloadAt i = some payload → ∃ content place,
    job.descriptor.writer.content (job.occasion (sentAt i)).moment payload = .ok content ∧
    before.openForWriting (job.pageFile (i + 1)) = .ok place ∧
    p.files.at? place = some (.file (.text content))
  untouched : ∀ place, (∀ path ∈ p.report.files, before.openForWriting path ≠ .ok place) →
    p.files.at? place = before.at? place

namespace Written

variable {job : Job} {before : Storage.Tree} {payloadAt : Nat → Option Page.Payload}
variable {sentAt : Nat → Nat} {count : Nat} {p after : Progress}

theorem start (report : p.report = .empty) (files : p.files = before) :
    Written job before payloadAt sentAt 0 p where
  paths := by rw [report]; rfl
  documents := by rw [report]; rfl
  opens := by rw [files]; exact fun _ _ opens => opens
  stands := fun i below => absurd below (Nat.not_lt_zero i)
  untouched := fun _ _ => by rw [files]

/-- Only the files and what the report says of them matter. -/
theorem congr (written : Written job before payloadAt sentAt count p)
    (paths : after.report.files = p.report.files)
    (documents : after.report.documentsWritten = p.report.documentsWritten)
    (files : after.files = p.files) : Written job before payloadAt sentAt count after where
  paths := by rw [paths, written.paths]
  documents := by rw [documents, written.documents]
  opens := by rw [files]; exact written.opens
  stands := by rw [files]; exact written.stands
  untouched := by rw [files, paths]; exact written.untouched

theorem skip (written : Written job before payloadAt sentAt count p)
    (nothing : payloadAt count = none) :
    Written job before payloadAt sentAt (count + 1) p where
  paths := by simp [List.range_succ, written.paths, nothing]
  documents := by simp [List.range_succ, written.documents, nothing, documentCount]
  opens := written.opens
  stands := by
    intro i below payload present
    rcases Nat.lt_succ_iff_lt_or_eq.mp below with earlier | rfl
    · exact written.stands i earlier payload present
    · rw [nothing] at present
      cases present
  untouched := written.untouched

/-- The new file stands at a place of its own, so the files of the pages before stay. -/
theorem add (plain : job.Plain)
    (written : Written job before payloadAt sentAt count p) {payload : Page.Payload}
    (present : payloadAt count = some payload) {content : String} {place : Storage.Place}
    (held : job.descriptor.writer.content (job.occasion (sentAt count)).moment payload =
      .ok content)
    (opens : before.openForWriting (job.pageFile (count + 1)) = .ok place)
    (paths : after.report.files = p.report.files ++ [job.pageFile (count + 1)])
    (documents : after.report.documentsWritten =
      p.report.documentsWritten + documentCount (some payload))
    (files : after.files = p.files.put place (.file (.text content))) :
    Written job before payloadAt sentAt (count + 1) after := by
  have free := (Storage.Tree.openForWriting_eq_ok (written.opens _ _ opens)).1
  refine ⟨?_, ?_, ?_, ?_, ?_⟩
  · simp [List.range_succ, paths, written.paths, present]
  · simp [List.range_succ, documents, written.documents, present]
  · intro path opened earlier
    rw [files]
    exact Storage.Tree.openForWriting_put_file free _ (written.opens path opened earlier)
  · intro i below other there
    rw [files]
    rcases Nat.lt_succ_iff_lt_or_eq.mp below with earlier | rfl
    · obtain ⟨text, seat, textHeld, seatOpens, stands⟩ := written.stands i earlier other there
      -- Two pages at one place would have one number.
      have apart : seat ≠ place := by
        rintro rfl
        have same := page_of_place plain seatOpens opens
        omega
      exact ⟨text, seat, textHeld, seatOpens, by rw [Storage.Tree.at?_put_other apart, stands]⟩
    · rw [present] at there
      cases there
      exact ⟨content, place, held, opens,
        Storage.Tree.at?_put_self (Storage.Tree.ne_root_of_not_directory free) _⟩
  · intro other others
    rw [paths] at others
    have apart : other ≠ place := by
      rintro rfl
      exact others _ (List.mem_append_right _ List.mem_cons_self) opens
    rw [files, Storage.Tree.at?_put_other apart]
    exact written.untouched other fun path member => others path (List.mem_append_left _ member)

/-- The files can be read by the paths that the report lists. -/
theorem read (written : Written job before payloadAt sentAt count p) {i : Nat} (below : i < count)
    {payload : Page.Payload} (present : payloadAt i = some payload) :
    ∃ content,
      job.descriptor.writer.content (job.occasion (sentAt i)).moment payload = .ok content ∧
      p.files.read (job.pageFile (i + 1)) = .ok (.text content) := by
  obtain ⟨content, place, held, opens, stands⟩ := written.stands i below payload present
  exact ⟨content, held, Storage.Tree.read_of_openForWriting (written.opens _ _ opens) stands⟩

end Written

/-! ## What an export has to show -/

/-- After requests for `queries`, with the first `pages` pages written and as many documents
found as `found` says. -/
structure Tally (job : Job) (before : Storage.Tree) (payloadAt : Nat → Option Page.Payload)
    (sentAt : Nat → Nat) (pages : Nat) (queries : List SelectQuery) (found : Option Nat)
    (p : Progress) : Prop where
  written : Written job before payloadAt sentAt pages p
  sent : p.sent.map Request.query = queries
  requests : p.report.requests = queries.length
  found : p.report.documentsFound = found

/-- Documents are a payload unless there are none. -/
def pageOf (documents : List Json) : Option Page.Payload :=
  if documents = [] then none else some (.documents documents)

theorem pageOf_eq_some {documents : List Json} {payload : Page.Payload} :
    pageOf documents = some payload ↔ documents ≠ [] ∧ payload = .documents documents := by
  by_cases empty : documents = [] <;> simp [pageOf, empty, eq_comm]

theorem isSome_pageOf (documents : List Json) :
    (pageOf documents).isSome = decide (documents ≠ []) := by
  by_cases empty : documents = [] <;> simp [pageOf, empty]

theorem documentCount_pageOf (documents : List Json) :
    documentCount (pageOf documents) = documents.length := by
  by_cases empty : documents = [] <;> simp [pageOf, empty, documentCount]

/-- The documents in the answer to a request. -/
def documentsIn (body : String) : List Json :=
  match Select.Response.read body with
  | .ok response => response.documents
  | .error _ => []

/-- What the answer to a request for data has for the file of a page. -/
def payloadOf (job : Job) (body : String) : Option Page.Payload :=
  match job.descriptor.payload with
  | .tabular => some (.tabular body)
  | .documents => pageOf (documentsIn body)

/-- The answer to a request for data can be read where documents are expected. -/
def Readable (job : Job) (body : String) : Prop :=
  job.descriptor.payload = .documents → ∃ response, Select.Response.read body = .ok response

namespace Tally

variable {job : Job} {before : Storage.Tree} {payloadAt : Nat → Option Page.Payload}
variable {sentAt : Nat → Nat} {pages : Nat} {queries : List SelectQuery} {found : Option Nat}
variable {p after : Progress}

theorem start (report : p.report = .empty) (files : p.files = before) (sent : p.sent = []) :
    Tally job before payloadAt sentAt 0 [] none p :=
  ⟨.start report files, by rw [sent]; rfl, by rw [report]; rfl, by rw [report]; rfl⟩

/-- The query and the log do not matter. -/
theorem congr (tally : Tally job before payloadAt sentAt pages queries found p)
    (alike : p.Alike after) : Tally job before payloadAt sentAt pages queries found after :=
  ⟨tally.written.congr (by rw [alike.report]) (by rw [alike.report]) alike.files,
    by rw [alike.sent, tally.sent], by rw [alike.report, tally.requests],
    by rw [alike.report, tally.found]⟩

theorem report_eq (tally : Tally job before payloadAt sentAt pages queries found p) :
    p.report =
      { files := ((List.range pages).filter fun i => (payloadAt i).isSome).map
          fun i => job.pageFile (i + 1)
        documentsFound := found
        documentsWritten := ((List.range pages).map fun i => documentCount (payloadAt i)).sum
        requests := queries.length } := by
  rw [← tally.written.paths, ← tally.found, ← tally.written.documents, ← tally.requests]

theorem length (tally : Tally job before payloadAt sentAt pages queries found p) :
    p.sent.length = queries.length := by
  rw [← tally.sent, List.length_map]

/-- What was set for the request shows in its query alone. -/
theorem ask (tally : Tally job before payloadAt sentAt pages queries found p) {asked : Progress}
    {query : SelectQuery} (asks : asked.query = query) {fetch : Fetcher} {body : String}
    (answered : Answered fetch queries.length query body) (alike : p.Alike asked) :
    ∃ after, request fetch asked = (.ok (query.url.text, body), after) ∧ after.query = query ∧
      Tally job before payloadAt sentAt pages (queries ++ [query]) found after := by
  subst asks
  have here := tally.congr alike
  rw [← here.length] at answered
  obtain ⟨after, reply, once⟩ := request_eq_of_answered answered
  refine ⟨after, reply, once.query, ?_, ?_, ?_, ?_⟩
  · exact here.written.congr (by rw [once.report]) (by rw [once.report]) once.files
  · rw [once.sent, List.map_append, here.sent, List.map_singleton]
  · rw [once.report, List.length_append, List.length_singleton, here.requests]
  · rw [once.report, here.found]

theorem count (tally : Tally job before payloadAt sentAt pages queries found p) (total : Nat) :
    Tally job before payloadAt sentAt pages queries (some total) (p.count total) :=
  ⟨tally.written.congr rfl rfl rfl, tally.sent, tally.requests, rfl⟩

theorem skip (tally : Tally job before payloadAt sentAt pages queries found p)
    (nothing : payloadAt pages = none) :
    Tally job before payloadAt sentAt (pages + 1) queries found p :=
  ⟨tally.written.skip nothing, tally.sent, tally.requests, tally.found⟩

theorem writePayload (plain : job.Plain)
    (tally : Tally job before payloadAt sentAt pages queries found p) {page : UInt32}
    (number : page.toNat = pages + 1) {payload : Page.Payload}
    (present : payloadAt pages = some payload) (timely : sentAt pages = queries.length)
    (writable : Writable job before queries.length (pages + 1) payload) :
    ∃ after, job.writePayload page payload p = (.ok (), after) ∧ after.query = p.query ∧
      Tally job before payloadAt sentAt (pages + 1) queries found
        (after.addDocuments (documentCount (some payload))) := by
  obtain ⟨content, place, held, opens, takes, -⟩ := Page.Writer.write_eq_ok writable
  have path : job.pagePath page = job.pageFile (pages + 1) := by
    rw [pagePath_eq_pageFile, number]
  obtain ⟨wrote, put⟩ := Page.Writer.write_of_open held (tally.written.opens _ _ opens) takes
  rw [← path, ← tally.length] at wrote put
  obtain ⟨after, result, query, sent, files, report⟩ := writePayload_of_write wrote
  refine ⟨after, result, query, ?_, ?_, ?_, ?_⟩
  · rw [← timely] at held
    apply tally.written.add plain present held opens
    · simp only [Progress.addDocuments, report, path]
    · simp only [Progress.addDocuments, report]
    · exact files.trans put
  · exact (congrArg (List.map Request.query) sent).trans tally.sent
  · simp only [Progress.addDocuments, report, tally.requests]
  · simp only [Progress.addDocuments, report, tally.found]

theorem writeDocuments (plain : job.Plain)
    (tally : Tally job before payloadAt sentAt pages queries found p) {page : UInt32}
    (number : page.toNat = pages + 1) {documents : List Json}
    (payload : payloadAt pages = pageOf documents) (timely : sentAt pages = queries.length)
    (writable : ∀ payload, payloadAt pages = some payload →
      Writable job before queries.length (pages + 1) payload) :
    ∃ after, job.writeDocuments page documents p = (.ok (), after) ∧ after.query = p.query ∧
      Tally job before payloadAt sentAt (pages + 1) queries found after := by
  rw [Job.writeDocuments]
  by_cases empty : documents = []
  · rw [if_pos empty]
    rw [pageOf, if_pos empty] at payload
    exact ⟨_, rfl, rfl, (tally.skip payload).congr ⟨rfl, rfl, rfl⟩⟩
  · rw [if_neg empty]
    rw [pageOf, if_neg empty] at payload
    obtain ⟨after, result, query, grown⟩ :=
      tally.writePayload plain number payload timely (writable _ payload)
    rw [result]
    exact ⟨_, rfl, query, grown⟩

theorem writeAnswer (plain : job.Plain)
    (tally : Tally job before payloadAt sentAt pages queries found p) {page : UInt32}
    (number : page.toNat = pages + 1) (url : String) {body : String} (readable : Readable job body)
    (payload : payloadAt pages = job.payloadOf body) (timely : sentAt pages = queries.length)
    (writable : ∀ payload, payloadAt pages = some payload →
      Writable job before queries.length (pages + 1) payload) :
    ∃ after, job.writeAnswer page url body p = (.ok (), after) ∧ after.query = p.query ∧
      Tally job before payloadAt sentAt (pages + 1) queries found after := by
  rw [Job.writeAnswer]
  rw [payloadOf] at payload
  cases kind : job.descriptor.payload with
  | tabular =>
      rw [kind] at payload
      exact tally.writePayload plain number payload timely (writable _ payload)
  | documents =>
      rw [kind] at payload
      obtain ⟨response, held⟩ := readable kind
      simp only [documentsIn, held] at payload
      simp only [readResponse_of_read url held]
      exact tally.writeDocuments plain number payload timely writable

end Tally

end Job

end IndexExport.Export
