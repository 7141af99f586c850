import IndexExport.Proofs.Csv.Table
import IndexExport.Proofs.Export.Kept
/-!
# What exports fail with

Whatever the replies, the payload of a page is one that the writer of the format takes, and
the rows of a table have one width. So as long as writing to a file that was opened succeeds, a
page that is not written could not be opened, or it has a document whose embedded text is no
JSON, which only one of the formats looks at. All other failures are those of requests.
-/
set_option autoImplicit false

namespace IndexExport

namespace Page

theorem embedded?_eq_error {document : Json} {e : Failure} (failed : embedded? document = .error e) :
    ∃ text, document.get? embeddedField = some (.text text) ∧ Json.read text = none ∧
      e = .embedded (namedId document) .notJson := by
  rw [embedded?] at failed
  split at failed
  · cases failed
  · cases failed
  · next text held =>
    cases read : Json.read text with
    | none =>
        rw [read] at failed
        cases failed
        exact ⟨text, held, read, rfl⟩
    | some value =>
        rw [read] at failed
        cases failed
  · cases failed

theorem embeddedValues_eq_error {documents : List Json} {e : Failure}
    (failed : embeddedValues documents = .error e) :
    ∃ document ∈ documents, embedded? document = .error e := by
  induction documents with
  | nil => cases failed
  | cons document rest ih =>
      rw [embeddedValues] at failed
      cases first : embedded? document with
      | error fault =>
          rw [first] at failed
          cases failed
          exact ⟨document, List.mem_cons_self, first⟩
      | ok value =>
          simp only [first] at failed
          cases others : embeddedValues rest with
          | error fault =>
              rw [others] at failed
              cases failed
              obtain ⟨other, member, lost⟩ := ih others
              exact ⟨other, List.mem_cons_of_mem _ member, lost⟩
          | ok values =>
              rw [others] at failed
              cases failed

/-- Documents have a content, unless embedded JSON is looked for that is none. -/
theorem documents_eq_error {writer : Writer} {moment : String} {items : List Json} {e : Failure}
    (failed : writer.content moment (.documents items) = .error e) :
    writer = .embeddedJson ∧ ∃ document ∈ items, embedded? document = .error e := by
  cases writer with
  | raw => cases failed
  | xml => cases failed
  | embeddedJson =>
      refine ⟨rfl, embeddedValues_eq_error ?_⟩
      rw [Writer.content] at failed
      cases held : embeddedValues items with
      | error fault =>
          rw [held] at failed
          cases failed
          rfl
      | ok values =>
          rw [held] at failed
          cases failed
  | csvTable =>
      obtain ⟨content, held⟩ := tableContent_eq_ok items
      rw [Writer.content, held] at failed
      cases failed

end Page

namespace Export

namespace Job

section Fits

variable {format : Format} {job : Job} {x : Exchange} {payload : Page.Payload} {e : Failure}

theorem writer_eq_embeddedJson (described : job.descriptor = format.descriptor)
    (writer : job.descriptor.writer = .embeddedJson) : format = .json := by
  rw [described] at writer
  cases format with
  | json => rfl
  | solr => cases writer
  | xml => cases writer
  | csv => cases writer
  | flatCsv => cases writer

theorem writer_of_tabular (described : job.descriptor = format.descriptor)
    (table : job.descriptor.payload = .tabular) : job.descriptor.writer = .csvTable := by
  rw [described] at table ⊢
  cases format with
  | csv => rfl
  | solr => cases table
  | xml => cases table
  | json => cases table
  | flatCsv => cases table

/-- The payload of an exchange is the documents of the reply, or the reply itself where the
format asks for tables. -/
theorem payload_cases (held : x.payload job = some payload) :
    payload = .documents (documentsIn x.body) ∨
      (job.descriptor.payload = .tabular ∧ payload = .tabular x.body) := by
  rw [Exchange.payload] at held
  have listed : pageOf (documentsIn x.body) = some payload →
      payload = .documents (documentsIn x.body) := fun page => (pageOf_eq_some.mp page).2
  have data : job.payloadOf x.body = some payload →
      payload = .documents (documentsIn x.body) ∨
        (job.descriptor.payload = .tabular ∧ payload = .tabular x.body) := by
    intro page
    rw [payloadOf] at page
    cases kind : job.descriptor.payload with
    | documents =>
        rw [kind] at page
        exact .inl (listed page)
    | tabular =>
        rw [kind] at page
        cases page
        exact .inr ⟨rfl, rfl⟩
  cases asked : x.ask with
  | count => rw [asked] at held; cases held
  | next cursor => rw [asked] at held; cases held
  | page cursor => rw [asked] at held; exact .inl (listed held)
  | all total => rw [asked] at held; exact data held
  | data cursor => rw [asked] at held; exact data held

theorem content_cases (described : job.descriptor = format.descriptor)
    (held : x.payload job = some payload) {fault : Page.Failure}
    (failed : job.descriptor.writer.content x.occasion.moment payload = .error fault) :
    format = .json ∧ ∃ document ∈ documentsIn x.body, Page.embedded? document = .error fault := by
  rcases payload_cases held with rfl | ⟨table, rfl⟩
  · obtain ⟨writer, document, member, lost⟩ := Page.documents_eq_error failed
    exact ⟨writer_eq_embeddedJson described writer, document, member, lost⟩
  · rw [writer_of_tabular described table] at failed
    cases failed

theorem unwritten_cases (described : job.descriptor = format.descriptor)
    (holds : x.occasion.medium.holds = true) (lost : x.unwritten job = some e) :
    (∃ cause, x.occasion.medium.opens x.files (job.pagePath x.page) = .error cause ∧
      e = .page (.storage (job.pagePath x.page) cause)) ∨
    (format = .json ∧ ∃ document ∈ documentsIn x.body, ∃ fault,
      Page.embedded? document = .error fault ∧ e = .page fault) := by
  obtain ⟨fault, failed, rfl⟩ := unwritable_eq_some_iff.mp lost
  rw [Exchange.attempt] at failed
  cases held : x.payload job with
  | none =>
      rw [held] at failed
      cases failed
  | some payload =>
      rw [held] at failed
      rcases Page.Writer.write_eq_error failed with
        ⟨content, -⟩ | ⟨cause, opens, rfl, -⟩ | ⟨place, stage, cause, left, -, breaks, -⟩
      · obtain ⟨json, document, member, embedded⟩ := content_cases described held content
        exact .inr ⟨json, document, member, fault, embedded, rfl⟩
      · exact .inl ⟨cause, opens, rfl⟩
      · rw [breaks] at holds
        cases holds

theorem request_of_refusal (refused : x.refusal = some e) : ∃ fault, e = .request fault := by
  rw [Exchange.refusal] at refused
  split at refused
  · cases refused
    exact ⟨_, rfl⟩
  · split_ifs at refused
    cases refused
    exact ⟨_, rfl⟩

theorem request_of_unreadable (unread : x.unreadable job = some e) :
    ∃ fault, e = .request fault := by
  rw [Exchange.unreadable] at unread
  split_ifs at unread
  split at unread
  · cases unread
    exact ⟨_, rfl⟩
  · cases unread

theorem request_of_incomplete (missing : x.incomplete = some e) : ∃ fault, e = .request fault := by
  rw [Exchange.incomplete] at missing
  split at missing
  · split_ifs at missing
    cases missing
    exact ⟨_, rfl⟩
  · split_ifs at missing
    cases missing
    exact ⟨_, rfl⟩
  · split_ifs at missing
    cases missing
    exact ⟨_, rfl⟩
  · cases missing
  · cases missing

/-- What goes wrong with an exchange is a request, or its page is not written. -/
theorem fault_cases (lost : x.fault job = some e) :
    (∃ fault, e = .request fault) ∨ (x.unwritten job = some e ∧ x.written job = none) := by
  rw [Exchange.fault, Option.or_eq_some_iff, Option.or_eq_some_iff, Option.or_eq_some_iff] at lost
  rcases lost with (refused | ⟨-, unread⟩) | ⟨readable, unwritten | ⟨-, missing⟩⟩
  · exact .inl (request_of_refusal refused)
  · exact .inl (request_of_unreadable unread)
  · refine .inr ⟨unwritten, ?_⟩
    rw [Exchange.written, readable, Option.none_or, unwritten]
    rfl
  · exact .inl (request_of_incomplete missing)

end Fits

section Runs

variable {format : Format} {job : Job} {fetch : Fetcher} {query : SelectQuery}
variable {files : Storage.Tree} {fuel : Nat} {e : Failure} {p : Progress}

/-- As long as writing to a file that was opened succeeds, an export fails with a request, or the
file of the last page could not be opened, or in the format of embedded JSON a document of that
page has a text that is none. -/
theorem run_failed_by_request_or_file (described : job.descriptor = format.descriptor)
    (holds : ∀ sent, (job.occasion sent).medium.holds = true)
    (failed : job.run fetch fuel query files = .failed e p) :
    (∃ fault, e = .request fault) ∨
    ∃ earlier x, job.history fetch fuel query files = earlier ++ [x] ∧ x.files = p.files ∧
      ((∃ cause, (job.occasion p.sent.length).medium.opens x.files (job.pagePath x.page) =
            .error cause ∧
          e = .page (.storage (job.pagePath x.page) cause)) ∨
        (format = .json ∧ ∃ document ∈ documentsIn x.body, ∃ text,
          document.get? Page.embeddedField = some (.text text) ∧ Json.read text = none ∧
          e = .page (.embedded (Page.namedId document) .notJson))) := by
  obtain ⟨takes, fault⟩ := run_accounts described fetch fuel query files
  rw [failed] at takes fault
  obtain ⟨earlier, x, split, -, lost⟩ := fault
  rcases fault_cases lost with request | ⟨unwritten, nothing⟩
  · exact .inl request
  rw [split] at takes
  obtain ⟨middle, took⟩ := takes.concat
  have occasion : x.occasion = job.occasion p.sent.length := by
    have sent : p.sent = middle.sent ++ [x.request] := took.sent
    rw [took.occasion, sent, List.length_append, List.length_singleton]
  have holds : x.occasion.medium.holds = true := by rw [occasion, holds]
  refine .inr ⟨earlier, x, split, ?_, ?_⟩
  · obtain ⟨-, left⟩ | ⟨held, place, stored, -, -⟩ := x.left_cases job
    · exact (took.left.trans left).symm
    · obtain ⟨-, stage, cause, breaks⟩ := Exchange.breaksOff_of_stored nothing stored
      rw [breaks] at holds
      cases holds
  rcases unwritten_cases described holds unwritten with
    opening | ⟨json, document, member, fault, embedded, rfl⟩
  · rw [occasion] at opening
    exact .inl opening
  · obtain ⟨text, held, unread, rfl⟩ := Page.embedded?_eq_error embedded
    exact .inr ⟨json, document, member, text, held, unread, rfl⟩

end Runs

/-! No directory, and a document whose embedded text breaks off. -/

def jsonJob : Job := ⟨Format.json.descriptor, 100, "out", counted⟩

def brokenBodies : List String :=
  ["\x7b\"response\":\x7b\"docs\":[\x7b\"id\":\"a\",\"iati_json\":\"\x7b\"\x7d]\x7d\x7d"]

theorem run_failed_on_page :
    (∃ e p cause, solrJob.run (replying threeBodies) 1 default ⟨[]⟩ = .failed e p ∧
      p.files.openForWriting "out/page1.json" = .error cause) ∧
    ∃ e p, jsonJob.run (replying brokenBodies) 1 default emptyDirectory = .failed e p ∧
      ∃ document text, Page.namedId document = "a" ∧
        document.get? Page.embeddedField = some (.text text) ∧ Json.read text = none := by
  refine ⟨?_, ?_⟩
  · have described : solrJob.descriptor = Format.solr.descriptor := rfl
    obtain ⟨e, p, failed, page⟩ : ∃ e p,
        solrJob.run (replying threeBodies) 1 default ⟨[]⟩ = .failed e p ∧
          e = .page (.storage "out/page1.json" .notFound) := ⟨_, _, rfl, rfl⟩
    rcases run_failed_by_request_or_file described (fun _ => rfl) failed with
      ⟨fault, rfl⟩ | ⟨-, x, -, files, ⟨cause, opens, rfl⟩ | ⟨json, -⟩⟩
    · cases page
    · simp only [Failure.page.injEq, Page.Failure.storage.injEq] at page
      have takes : (solrJob.occasion p.sent.length).medium = .takes := rfl
      rw [files, page.1, Page.Medium.opens_of_takes takes] at opens
      exact ⟨_, p, cause, failed, opens⟩
    · cases json
  · have described : jsonJob.descriptor = Format.json.descriptor := rfl
    obtain ⟨e, p, failed, page⟩ : ∃ e p,
        jsonJob.run (replying brokenBodies) 1 default emptyDirectory = .failed e p ∧
          e = .page (.embedded "a" .notJson) := ⟨_, _, rfl, rfl⟩
    rcases run_failed_by_request_or_file described (fun _ => rfl) failed with
      ⟨fault, rfl⟩ | ⟨-, x, -, -, ⟨cause, -, rfl⟩ | ⟨-, document, -, text, held, unread, rfl⟩⟩
    · cases page
    · cases page
    · simp only [Failure.page.injEq, Page.Failure.embedded.injEq] at page
      exact ⟨_, p, failed, document, text, page.1, held, unread⟩

end Job

end Export

end IndexExport
