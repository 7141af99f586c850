import IndexExport.Proofs.Export.BulkWalk
import IndexExport.Proofs.Export.CursorWalk
/-!
# Exchanges

An export is a sequence of exchanges, each a request and the reply to it. What an exchange
asks for follows from the state that the export is in. `Exchange.fault` says what goes wrong
with it, the first of four: there is no answer with success, the answer cannot be read, its
page cannot be written, or the count or the cursor is missing. `Exchange.written` is the
payload that has been put into a file by then, and `Exchange.left` are the files, where a page
that could not be written may have left something of its own.

Whatever the reply, a request is sent, a payload is written or it is not, and the outcome is
as the fault says. `countStep_cases` and its like say so of each way to go on.
-/
set_option autoImplicit false

namespace IndexExport.Export

/-- What is asked for: the count, all documents at once, a page that comes with the next
cursor, the cursor after a page, or the data of a page. -/
inductive Ask where
  | count
  | all (total : Nat)
  | page (cursor : String)
  | next (cursor : String)
  | data (cursor : String)
  deriving DecidableEq, Repr

def Ask.query (job : Job) (query : SelectQuery) : Ask → SelectQuery
  | .count => countQuery query
  | .all total => job.singleQuery query total
  | .page cursor => job.pageQuery query cursor
  | .next cursor => job.metaQuery query cursor
  | .data cursor => job.dataQuery (job.metaQuery query cursor)

def Ask.isData : Ask → Bool
  | .all _ | .data _ => true
  | _ => false

def State.page : State → UInt32
  | .paging cursor => cursor.page
  | _ => 1

/-- A request and the reply to it, with the state of the export and the files at that time, and
what the writing of a page meets then. -/
structure Exchange where
  state : State
  ask : Ask
  query : SelectQuery
  files : Storage.Tree
  occasion : Page.Occasion
  reply : Except Select.NoAnswer Answer

namespace Job

def cursorIn (body : String) : Option String :=
  match Select.Response.read body with
  | .ok response => response.cursor?
  | .error _ => none

def countIn (body : String) : Option Nat :=
  match Select.Response.read body with
  | .ok response => response.count?
  | .error _ => none

end Job

namespace Exchange

open Job

def page (x : Exchange) : UInt32 := x.state.page

def request (x : Exchange) : Request := ⟨x.query, x.files⟩

def url (x : Exchange) : String := x.query.url.text

def body (x : Exchange) : String :=
  match x.reply with
  | .ok answer => answer.body
  | .error _ => ""

/-- There is no answer, or none with success. -/
def refusal (x : Exchange) : Option Failure :=
  match x.reply with
  | .error reason => some (.request (.unanswered x.url x.query.url.requested.text reason))
  | .ok answer =>
    if answer.isSuccess then none
    else some (.request (.refused answer.status x.url (Text.excerpt answer.body)))

/-- The body is no response. A table need not be one. -/
def unreadable (job : Job) (x : Exchange) : Option Failure :=
  if x.ask.isData = true ∧ job.descriptor.payload = .tabular then none
  else
    match Select.Response.read x.body with
    | .error fault => some (.request (.unreadable x.url fault))
    | .ok _ => none

/-- What the answer has for the file of the page. -/
def payload (job : Job) (x : Exchange) : Option Page.Payload :=
  match x.ask with
  | .count | .next _ => none
  | .page _ => pageOf (documentsIn x.body)
  | .all _ | .data _ => job.payloadOf x.body

end Exchange

namespace Job

/-- What comes of the file of a page, if there is a payload for it. -/
def attempt (job : Job) (occasion : Page.Occasion) (page : UInt32) (files : Storage.Tree) :
    Option Page.Payload → Page.Attempt
  | none => ⟨.ok (), files, []⟩
  | some payload => job.descriptor.writer.write occasion payload (job.pagePath page) files

def unwritable (attempt : Page.Attempt) : Option Failure :=
  match attempt.result with
  | .error e => some (.page e)
  | .ok () => none

theorem unwritable_eq_none_iff {attempt : Page.Attempt} :
    unwritable attempt = none ↔ attempt.result = .ok () := by
  rw [unwritable]
  cases attempt.result <;> simp

theorem unwritable_eq_some_iff {attempt : Page.Attempt} {e : Failure} :
    unwritable attempt = some e ↔ ∃ cause, attempt.result = .error cause ∧ e = .page cause := by
  rw [unwritable]
  cases attempt.result <;> simp [eq_comm]

/-- The files that a payload adds to the report. -/
def pathsOf (job : Job) (page : UInt32) (payload? : Option Page.Payload) : List String :=
  (payload?.map fun _ => job.pagePath page).toList

end Job

namespace Exchange

open Job

def attempt (job : Job) (x : Exchange) : Page.Attempt :=
  job.attempt x.occasion x.page x.files (x.payload job)

/-- The page cannot be written. -/
def unwritten (job : Job) (x : Exchange) : Option Failure := unwritable (x.attempt job)

/-- What the answer was asked for is not there. -/
def incomplete (x : Exchange) : Option Failure :=
  match x.ask with
  | .count => if (countIn x.body).isSome then none else some (.request (.uncounted x.url))
  | .page _ | .next _ =>
    if (cursorIn x.body).isSome then none else some (.request (.withoutCursor x.url))
  | .all _ | .data _ => none

/-- What goes wrong first. -/
def fault (job : Job) (x : Exchange) : Option Failure :=
  (x.refusal.or (x.unreadable job)).or ((x.unwritten job).or x.incomplete)

/-- What has been written when the exchange is over. -/
def written (job : Job) (x : Exchange) : Option Page.Payload :=
  if ((x.refusal.or (x.unreadable job)).or (x.unwritten job)).isSome then none else x.payload job

/-- The files when the exchange is over. -/
def left (job : Job) (x : Exchange) : Storage.Tree :=
  if (x.refusal.or (x.unreadable job)).isSome then x.files else (x.attempt job).files

/-- The files that the report has got then. -/
def paths (job : Job) (x : Exchange) : List String := job.pathsOf x.page (x.written job)

section Fault

variable {job : Job} {x : Exchange} {e : Failure}

theorem fault_eq_none_iff : x.fault job = none ↔
    x.refusal = none ∧ x.unreadable job = none ∧ x.unwritten job = none ∧
      x.incomplete = none := by
  simp only [fault, Option.or_eq_none_iff, and_assoc]

theorem fault_of_refusal (refused : x.refusal = some e) : x.fault job = some e := by
  rw [fault, refused, Option.some_or, Option.some_or]

theorem written_of_refusal (refused : x.refusal = some e) : x.written job = none := by
  rw [written, refused, Option.some_or, Option.some_or]
  rfl

theorem fault_of_arrived (job : Job) (arrived : x.refusal = none) :
    x.fault job = ((x.unreadable job).or (x.unwritten job)).or x.incomplete := by
  rw [fault, arrived, Option.none_or, Option.or_assoc]

theorem written_of_fault (arrived : x.refusal = none)
    (lost : (x.unreadable job).or (x.unwritten job) = some e) : x.written job = none := by
  rw [written, arrived, Option.none_or, lost]
  rfl

theorem written_of_arrived (arrived : x.refusal = none)
    (kept : (x.unreadable job).or (x.unwritten job) = none) :
    x.written job = x.payload job := by
  rw [written, arrived, Option.none_or, kept]
  rfl

theorem left_of_lost (lost : x.refusal.or (x.unreadable job) = some e) :
    x.left job = x.files := by
  rw [left, lost]
  rfl

theorem left_of_read (arrived : x.refusal = none) (read : x.unreadable job = none) :
    x.left job = (x.attempt job).files := by
  rw [left, arrived, read]
  rfl

/-- Without a payload nothing is written, and nothing goes wrong with it. -/
theorem idle_of_no_payload (nothing : x.payload job = none) :
    x.unwritten job = none ∧ x.written job = none ∧ x.left job = x.files := by
  refine ⟨?_, ?_, ?_⟩
  · rw [unwritten, attempt, nothing]
    rfl
  · rw [written, nothing, ite_self]
  · rw [left, attempt, nothing]
    exact ite_self x.files

theorem payload_of_data (data : x.ask.isData = true) : x.payload job = job.payloadOf x.body := by
  rw [payload]
  cases asked : x.ask with
  | count => rw [asked] at data; cases data
  | page cursor => rw [asked] at data; cases data
  | next cursor => rw [asked] at data; cases data
  | all total => rfl
  | data cursor => rfl

theorem incomplete_of_data (data : x.ask.isData = true) : x.incomplete = none := by
  rw [incomplete]
  cases asked : x.ask with
  | count => rw [asked] at data; cases data
  | page cursor => rw [asked] at data; cases data
  | next cursor => rw [asked] at data; cases data
  | all total => rfl
  | data cursor => rfl

end Fault

end Exchange

/-- The faults among exchanges: none, or one in the last of them. -/
def FaultIs (job : Job) (xs : List Exchange) : Option Failure → Prop
  | none => ∀ x ∈ xs, x.fault job = none
  | some e => ∃ earlier last, xs = earlier ++ [last] ∧ (∀ x ∈ earlier, x.fault job = none) ∧
      last.fault job = some e

theorem FaultIs.single {job : Job} {x : Exchange} {e? : Option Failure}
    (fault : x.fault job = e?) : FaultIs job [x] e? := by
  cases e? with
  | none =>
      intro y member
      rw [List.mem_singleton.mp member, fault]
  | some e => exact ⟨[], x, rfl, fun y member => absurd member List.not_mem_nil, fault⟩

theorem FaultIs.append {job : Job} {xs ys : List Exchange} {e? : Option Failure}
    (before : FaultIs job xs none) (after : FaultIs job ys e?) : FaultIs job (xs ++ ys) e? := by
  cases e? with
  | none =>
      intro x member
      rcases List.mem_append.mp member with first | second
      · exact before x first
      · exact after x second
  | some e =>
      obtain ⟨earlier, last, rfl, clean, fault⟩ := after
      refine ⟨xs ++ earlier, last, (List.append_assoc xs earlier [last]).symm, ?_, fault⟩
      intro x member
      rcases List.mem_append.mp member with first | second
      · exact before x first
      · exact clean x second

/-! ## What an exchange changes -/

namespace Job

/-- Beside the log, only the files have changed, and the report has got some more of them. -/
structure Put (left : Storage.Tree) (paths : List String) (p after : Progress) : Prop where
  query : after.query = p.query
  sent : after.sent = p.sent
  requests : after.report.requests = p.report.requests
  files : after.files = left
  paths : after.report.files = p.report.files ++ paths

/-- An exchange took place. -/
structure Took (job : Job) (fetch : Fetcher) (x : Exchange) (p after : Progress) : Prop where
  files : x.files = p.files
  occasion : x.occasion = job.occasion (p.sent.length + 1)
  reply : x.reply = (fetch p.sent.length x.query.url).1
  query : after.query = x.query
  sent : after.sent = p.sent ++ [x.request]
  requests : after.report.requests = p.report.requests + 1
  left : after.files = x.left job
  paths : after.report.files = p.report.files ++ x.paths job

/-- Exchanges took place one after the other. -/
inductive Takes (job : Job) (fetch : Fetcher) : List Exchange → Progress → Progress → Prop
  | nil (p : Progress) : Takes job fetch [] p p
  | cons {x : Exchange} {xs : List Exchange} {p middle after : Progress}
      (first : job.Took fetch x p middle) (rest : Takes job fetch xs middle after) :
      Takes job fetch (x :: xs) p after

theorem Takes.single {job : Job} {fetch : Fetcher} {x : Exchange} {p after : Progress}
    (took : job.Took fetch x p after) : job.Takes fetch [x] p after :=
  .cons took (.nil after)

theorem Takes.append {job : Job} {fetch : Fetcher} {xs ys : List Exchange}
    {p middle after : Progress} (first : job.Takes fetch xs p middle)
    (second : job.Takes fetch ys middle after) : job.Takes fetch (xs ++ ys) p after := by
  induction first with
  | nil => exact second
  | cons took _ ih => exact .cons took (ih second)

section Writing

variable {job : Job} {page : UInt32} {p : Progress}

theorem Put.refl (p : Progress) : Put p.files [] p p :=
  ⟨rfl, rfl, rfl, rfl, (List.append_nil _).symm⟩

/-- A page is written, or it is not and is not in the report. -/
theorem writePayload_cases (job : Job) (page : UInt32) (payload : Page.Payload) (p : Progress) :
    let attempt := job.attempt (job.occasion p.sent.length) page p.files (some payload)
    ∃ after,
      (∃ e, unwritable attempt = some e ∧ job.writePayload page payload p = (.error e, after) ∧
        Put attempt.files [] p after) ∨
      (unwritable attempt = none ∧ job.writePayload page payload p = (.ok (), after) ∧
        Put attempt.files [job.pagePath page] p after) := by
  simp only [unwritable, attempt, writePayload]
  cases (job.descriptor.writer.write (job.occasion p.sent.length) payload (job.pagePath page)
    p.files).result with
  | error e => exact ⟨_, .inl ⟨_, rfl, rfl, rfl, rfl, rfl, rfl, (List.append_nil _).symm⟩⟩
  | ok done => exact ⟨_, .inr ⟨rfl, rfl, rfl, rfl, rfl, rfl, rfl⟩⟩

theorem writeDocuments_cases (job : Job) (page : UInt32) (documents : List Json) (p : Progress) :
    let attempt := job.attempt (job.occasion p.sent.length) page p.files (pageOf documents)
    ∃ after,
      (∃ e, unwritable attempt = some e ∧
        job.writeDocuments page documents p = (.error e, after) ∧ Put attempt.files [] p after) ∨
      (unwritable attempt = none ∧ job.writeDocuments page documents p = (.ok (), after) ∧
        Put attempt.files (job.pathsOf page (pageOf documents)) p after) := by
  rw [writeDocuments, pageOf]
  by_cases empty : documents = []
  · rw [if_pos empty, if_pos empty]
    exact ⟨_, .inr ⟨rfl, rfl, rfl, rfl, rfl, rfl, (List.append_nil _).symm⟩⟩
  · rw [if_neg empty, if_neg empty]
    obtain ⟨after, ⟨e, unwritten, wrote, put⟩ | ⟨written, wrote, put⟩⟩ :=
      job.writePayload_cases page (.documents documents) p
    · rw [wrote]
      exact ⟨after, .inl ⟨e, unwritten, rfl, put⟩⟩
    · rw [wrote]
      exact ⟨_, .inr ⟨written, rfl, put.query, put.sent, put.requests, put.files, put.paths⟩⟩

/-- What can be read is written, or it is not, as the attempt says. -/
theorem put_of_attempt {x : Exchange} {result : Reached Unit} (arrived : x.refusal = none)
    (read : x.unreadable job = none)
    (wrote : ∃ after,
      (∃ e, unwritable (x.attempt job) = some e ∧ result = (.error e, after) ∧
        Put (x.attempt job).files [] p after) ∨
      (unwritable (x.attempt job) = none ∧ result = (.ok (), after) ∧
        Put (x.attempt job).files (job.pathsOf x.page (x.payload job)) p after)) :
    ∃ after, Put (x.left job) (x.paths job) p after ∧
      ((∃ e, (x.unreadable job).or (x.unwritten job) = some e ∧ result = (.error e, after)) ∨
        ((x.unreadable job).or (x.unwritten job) = none ∧ result = (.ok (), after))) := by
  have unread : (x.unreadable job).or (x.unwritten job) = unwritable (x.attempt job) := by
    rw [read, Option.none_or, Exchange.unwritten]
  rw [unread, Exchange.left_of_read arrived read, Exchange.paths]
  obtain ⟨after, ⟨e, lost, failed, put⟩ | ⟨kept, went, put⟩⟩ := wrote
  · refine ⟨after, ?_, .inl ⟨e, lost, failed⟩⟩
    rw [Exchange.written_of_fault arrived (unread.trans lost)]
    exact put
  · refine ⟨after, ?_, .inr ⟨kept, went⟩⟩
    rw [Exchange.written_of_arrived arrived (unread.trans kept)]
    exact put

theorem writeAnswer_cases {x : Exchange} (data : x.ask.isData = true) (arrived : x.refusal = none)
    (files : x.files = p.files) (occasion : x.occasion = job.occasion p.sent.length) :
    ∃ after, Put (x.left job) (x.paths job) p after ∧
      ((∃ e, (x.unreadable job).or (x.unwritten job) = some e ∧
        job.writeAnswer x.page x.url x.body p = (.error e, after)) ∨
      ((x.unreadable job).or (x.unwritten job) = none ∧
        job.writeAnswer x.page x.url x.body p = (.ok (), after))) := by
  have payload : x.payload job = job.payloadOf x.body := Exchange.payload_of_data data
  rw [payloadOf] at payload
  rw [writeAnswer]
  cases kind : job.descriptor.payload with
  | tabular =>
      rw [kind] at payload
      apply put_of_attempt arrived (by rw [Exchange.unreadable, if_pos ⟨data, kind⟩])
      rw [Exchange.attempt, files, occasion, payload]
      exact job.writePayload_cases x.page (.tabular x.body) p
  | documents =>
      rw [kind] at payload
      have unreadable : x.unreadable job = match Select.Response.read x.body with
          | .error fault => some (.request (.unreadable x.url fault))
          | .ok _ => none := by
        apply if_neg
        rintro ⟨-, table⟩
        rw [kind] at table
        cases table
      simp only [readResponse]
      cases held : Select.Response.read x.body with
      | error fault =>
          rw [held] at unreadable
          have lost : (x.unreadable job).or (x.unwritten job) =
              some (.request (.unreadable x.url fault)) := by
            rw [unreadable, Option.some_or]
          refine ⟨p, ?_, .inl ⟨_, lost, rfl⟩⟩
          rw [Exchange.left_of_lost (by rw [arrived, unreadable, Option.none_or]), files,
            Exchange.paths, Exchange.written_of_fault arrived lost]
          exact .refl p
      | ok response =>
          rw [held] at unreadable
          simp only [documentsIn, held] at payload
          apply put_of_attempt arrived unreadable
          rw [Exchange.attempt, files, occasion, payload]
          exact job.writeDocuments_cases x.page response.documents p

end Writing

/-! ## Requests -/

section Requests

variable {job : Job} {fetch : Fetcher} {x : Exchange} {p asked middle after : Progress}

/-- Either there is no answer with success, or the body of one. -/
theorem request_cases (alike : p.Alike asked) (query : x.query = asked.query)
    (reply : x.reply = (fetch p.sent.length x.query.url).1) :
    ∃ after, asked.Sent after ∧
      ((∃ e, x.refusal = some e ∧ request fetch asked = (.error e, after)) ∨
        (x.refusal = none ∧ request fetch asked = (.ok (x.url, x.body), after))) := by
  have told : (fetch (asked.tell (.requesting asked.query.url.text)).sent.length
      (asked.tell (.requesting asked.query.url.text)).query.url).1 = x.reply := by
    rw [reply, query, ← alike.sent]
    rfl
  refine ⟨(request fetch asked).2, sent_request fetch asked, ?_⟩
  rw [Exchange.refusal, Exchange.url, Exchange.body, query]
  cases replied : x.reply with
  | error reason =>
      refine .inl ⟨_, rfl, Prod.ext ?_ rfl⟩
      simp only [request, told, replied]
      rfl
  | ok answer =>
      by_cases success : answer.isSuccess = true
      · refine .inr ⟨if_pos success, Prod.ext ?_ rfl⟩
        simp only [request, told, replied, if_pos success]
      · refine .inl ⟨_, if_neg success, Prod.ext ?_ rfl⟩
        simp only [request, told, replied, if_neg success]

/-- What was set for the request, the request itself and what was put away make an exchange. -/
theorem took_of_put (alike : p.Alike asked) (files : x.files = p.files)
    (occasion : x.occasion = job.occasion (p.sent.length + 1))
    (query : x.query = asked.query) (reply : x.reply = (fetch p.sent.length x.query.url).1)
    (sent : asked.Sent middle) (put : Put (x.left job) (x.paths job) middle after) :
    job.Took fetch x p after := by
  refine ⟨files, occasion, reply, ?_, ?_, ?_, put.files, ?_⟩
  · rw [put.query, sent.query, query]
  · rw [put.sent, sent.sent, alike.sent, alike.files, Exchange.request, query, files]
  · rw [put.requests, sent.report, alike.report]
  · rw [put.paths, sent.report, alike.report]

/-- Either the exchange ends with the request, or there is an answer, and with what is then put
away the exchange is complete. -/
theorem exchange_cases (job : Job) (alike : p.Alike asked) (files : x.files = p.files)
    (occasion : x.occasion = job.occasion (p.sent.length + 1)) (query : x.query = asked.query)
    (reply : x.reply = (fetch p.sent.length x.query.url).1) :
    ∃ middle, x.files = middle.files ∧ x.occasion = job.occasion middle.sent.length ∧
      ((∃ e, x.fault job = some e ∧ request fetch asked = (.error e, middle) ∧
          job.Took fetch x p middle) ∨
        (x.refusal = none ∧ request fetch asked = (.ok (x.url, x.body), middle) ∧
          ∀ after, Put (x.left job) (x.paths job) middle after → job.Took fetch x p after)) := by
  obtain ⟨middle, sent, outcome⟩ := request_cases alike query reply
  have unchanged : x.files = middle.files := by rw [files, sent.files, alike.files]
  have count : middle.sent.length = p.sent.length + 1 := by
    rw [sent.sent, alike.sent, List.length_append, List.length_singleton]
  refine ⟨middle, unchanged, by rw [count, occasion], ?_⟩
  have takes := fun after (put : Put (x.left job) (x.paths job) middle after) =>
    took_of_put alike files occasion query reply sent put
  rcases outcome with ⟨e, refused, failed⟩ | ⟨arrived, answered⟩
  · refine .inl ⟨e, Exchange.fault_of_refusal refused, failed, takes middle ?_⟩
    rw [Exchange.left_of_lost (by rw [refused, Option.some_or]), unchanged, Exchange.paths,
      Exchange.written_of_refusal refused]
    exact .refl middle
  · exact .inr ⟨arrived, answered, takes⟩

theorem dataStep_cases (job : Job) (data : x.ask.isData = true) (files : x.files = p.files)
    (occasion : x.occasion = job.occasion (p.sent.length + 1))
    (query : x.query = job.dataQuery p.query)
    (reply : x.reply = (fetch p.sent.length x.query.url).1) :
    ∃ after, job.Took fetch x p after ∧
      ((∃ e, x.fault job = some e ∧ job.dataStep fetch x.page p = (.error e, after)) ∨
        (x.fault job = none ∧ job.dataStep fetch x.page p = (.ok (), after))) := by
  have alike : p.Alike (job.applyFieldList (job.applyResponseWriter p)) :=
    (Progress.alike_setOrRemove p "wt" _).trans (Progress.alike_setOrRemove _ "fl" _)
  have asks : x.query = (job.applyFieldList (job.applyResponseWriter p)).query := by
    rw [query, dataQuery, applyFieldList, applyResponseWriter, Progress.setOrRemove_query,
      Progress.setOrRemove_query]
  obtain ⟨middle, kept, meets, ⟨e, fault, failed, took⟩ | ⟨arrived, answered, takes⟩⟩ :=
    job.exchange_cases alike files occasion asks reply
  · exact ⟨middle, took, .inl ⟨e, fault, by rw [dataStep, failed]⟩⟩
  · have fault := Exchange.fault_of_arrived job arrived
    rw [Exchange.incomplete_of_data data, Option.or_none] at fault
    obtain ⟨after, put, outcome⟩ := writeAnswer_cases data arrived kept meets
    refine ⟨after, takes after put, ?_⟩
    rw [fault, dataStep, answered]
    exact outcome

/-- What is no table is read as a response. -/
theorem readResponse_cases (job : Job) (x : Exchange) (other : x.ask.isData = false) :
    (∃ e, x.unreadable job = some e ∧ readResponse x.url x.body = .error e) ∨
    (∃ response, x.unreadable job = none ∧ readResponse x.url x.body = .ok response ∧
      Select.Response.read x.body = .ok response) := by
  have json : ¬(x.ask.isData = true ∧ job.descriptor.payload = .tabular) := by
    rw [other]
    exact fun data => nomatch data.1
  rw [Exchange.unreadable, if_neg json, readResponse]
  cases held : Select.Response.read x.body with
  | error trouble => exact .inl ⟨_, rfl, rfl⟩
  | ok response => exact .inr ⟨response, rfl, rfl, rfl⟩

theorem cursorOf_cases (paged : (∃ c, x.ask = .page c) ∨ ∃ c, x.ask = .next c)
    {response : Select.Response} (held : Select.Response.read x.body = .ok response) :
    (∃ e, x.incomplete = some e ∧ cursorOf x.url response = .error e) ∨
    (∃ next, x.incomplete = none ∧ cursorOf x.url response = .ok next ∧
      cursorIn x.body = some next) := by
  have missing : x.incomplete =
      if response.cursor?.isSome then none else some (.request (.withoutCursor x.url)) := by
    rw [Exchange.incomplete]
    rcases paged with ⟨c, asked⟩ | ⟨c, asked⟩
    · rw [asked, cursorIn, held]
    · rw [asked, cursorIn, held]
  rw [missing, cursorOf, cursorIn, held]
  cases found : response.cursor? with
  | none => exact .inl ⟨_, rfl, rfl⟩
  | some next => exact .inr ⟨next, rfl, rfl, found⟩

/-- What the count says is found, and decides what follows. -/
theorem countStep_cases (job : Job) (asked : x.ask = .count) (files : x.files = p.files)
    (occasion : x.occasion = job.occasion (p.sent.length + 1))
    (query : x.query = countQuery p.query)
    (reply : x.reply = (fetch p.sent.length x.query.url).1) :
    ∃ after, job.Took fetch x p after ∧
      ((∃ e, x.fault job = some e ∧ job.countStep fetch p = (.error e, after)) ∨
        (x.fault job = none ∧ ∃ total, countIn x.body = some total ∧
          job.countStep fetch p = (.ok (job.afterCount total), after) ∧
          after.report.documentsFound = some total)) := by
  have payload : x.payload job = none := by rw [Exchange.payload, asked]
  obtain ⟨unwritten, nothing, left⟩ := Exchange.idle_of_no_payload payload
  have alike : p.Alike (((p.tell .counting).set "rows" "0").set "wt" "json" |>.setOrRemove "fl"
    none) := ⟨rfl, rfl, rfl⟩
  obtain ⟨middle, unchanged, -, ⟨e, fault, failed, took⟩ | ⟨arrived, answered, takes⟩⟩ :=
    job.exchange_cases alike files occasion query reply
  · refine ⟨middle, took, .inl ⟨e, fault, ?_⟩⟩
    simp only [countStep, failed]
  · rw [left, unchanged, Exchange.paths, nothing] at takes
    have fault := Exchange.fault_of_arrived job arrived
    have took : job.Took fetch x p middle := takes middle (.refl middle)
    rw [unwritten, Option.or_none] at fault
    obtain ⟨e, lost, unread⟩ | ⟨response, read, known, held⟩ :=
      job.readResponse_cases x (by rw [asked]; rfl)
    · rw [lost, Option.some_or] at fault
      refine ⟨middle, took, .inl ⟨e, fault, ?_⟩⟩
      simp only [countStep, answered, unread]
    · rw [read, Option.none_or, Exchange.incomplete, asked, countIn, held] at fault
      cases counted : response.count? with
      | none =>
          simp only [counted] at fault
          refine ⟨middle, took, .inl ⟨_, fault, ?_⟩⟩
          simp only [countStep, answered, known, countOf, counted]
      | some total =>
          simp only [counted] at fault
          have count : countIn x.body = some total := by
            rw [countIn, held]
            exact counted
          refine ⟨(middle.count total).tell (.counted total),
            takes _ ⟨rfl, rfl, rfl, rfl, (List.append_nil _).symm⟩, .inr ⟨fault, total, count, ?_, rfl⟩⟩
          simp only [countStep, answered, known, countOf, counted]

/-- A page is written before the next cursor is looked for. -/
theorem pageStep_cases (job : Job) {cursor : Cursor} (asked : x.ask = .page cursor.current)
    (state : x.state = .paging cursor) (files : x.files = p.files)
    (occasion : x.occasion = job.occasion (p.sent.length + 1))
    (query : x.query = p.query.set "cursorMark" cursor.current)
    (reply : x.reply = (fetch p.sent.length x.query.url).1) :
    ∃ after, job.Took fetch x p after ∧
      ((∃ e, x.fault job = some e ∧ job.pageStep fetch cursor p = (.error e, after)) ∨
        (x.fault job = none ∧ ∃ next, cursorIn x.body = some next ∧
          job.pageStep fetch cursor p = (.ok (follow cursor next), after))) := by
  have page : x.page = cursor.page := by rw [Exchange.page, state, State.page]
  have alike : p.Alike ((p.tell (.fetchingPage cursor.page.toNat)).set "cursorMark"
    cursor.current) := ⟨rfl, rfl, rfl⟩
  obtain ⟨middle, kept, meets, ⟨e, fault, failed, took⟩ | ⟨arrived, answered, takes⟩⟩ :=
    job.exchange_cases alike files occasion query reply
  · refine ⟨middle, took, .inl ⟨e, fault, ?_⟩⟩
    simp only [pageStep, failed]
  · have fault := Exchange.fault_of_arrived job arrived
    obtain ⟨e, lost, unread⟩ | ⟨response, readable, known, held⟩ :=
      job.readResponse_cases x (by rw [asked]; rfl)
    · have lost : x.unreadable job = some e := lost
      rw [lost, Option.some_or, Option.some_or] at fault
      refine ⟨middle, takes middle ?_, .inl ⟨e, fault, ?_⟩⟩
      · rw [Exchange.left_of_lost (by rw [arrived, lost, Option.none_or]), kept, Exchange.paths,
          Exchange.written_of_fault arrived (by rw [lost, Option.some_or])]
        exact .refl middle
      · simp only [pageStep, answered, unread]
    · have payload : x.payload job = pageOf response.documents := by
        rw [Exchange.payload, asked, documentsIn, held]
      have wrote := job.writeDocuments_cases x.page response.documents middle
      rw [← kept, ← meets, ← payload] at wrote
      obtain ⟨after, put, ⟨e, lost, wrote⟩ | ⟨none, wrote⟩⟩ :=
        put_of_attempt arrived readable wrote
      · rw [lost, Option.some_or] at fault
        rw [page] at wrote
        refine ⟨after, takes after put, .inl ⟨e, fault, ?_⟩⟩
        simp only [pageStep, answered, known, wrote]
      · rw [none, Option.none_or] at fault
        rw [page] at wrote
        refine ⟨after, takes after put, ?_⟩
        obtain ⟨e, lost, missing⟩ | ⟨next, there, found, cursorIn⟩ :=
          cursorOf_cases (.inl ⟨_, asked⟩) held
        · refine .inl ⟨e, by rw [fault, lost], ?_⟩
          simp only [pageStep, answered, known, wrote, missing]
        · refine .inr ⟨by rw [fault, there], next, cursorIn, ?_⟩
          simp only [pageStep, answered, known, wrote, found]

/-- The cursor comes first, and data is asked for only where documents are listed. -/
theorem bulkStep_cases (job : Job) {cursor : Cursor} (asked : x.ask = .next cursor.current)
    (files : x.files = p.files) (occasion : x.occasion = job.occasion (p.sent.length + 1))
    (query : x.query = job.cursorQuery p.query cursor.current)
    (reply : x.reply = (fetch p.sent.length x.query.url).1) :
    ∃ after, job.Took fetch x p after ∧
      ((∃ e, x.fault job = some e ∧ job.bulkStep fetch cursor p = (.error e, after)) ∨
        (x.fault job = none ∧ ∃ next, cursorIn x.body = some next ∧
          job.bulkStep fetch cursor p =
            if documentsIn x.body = [] then (.ok (follow cursor next), after)
            else
              match job.dataStep fetch cursor.page after with
              | (.error e, p) => (.error e, p)
              | (.ok (), p) => (.ok (follow cursor next), p))) := by
  have payload : x.payload job = none := by rw [Exchange.payload, asked]
  obtain ⟨unwritten, nothing, left⟩ := Exchange.idle_of_no_payload payload
  have alike : p.Alike (job.askForCursor cursor p) := ⟨rfl, rfl, rfl⟩
  obtain ⟨middle, unchanged, -, ⟨e, fault, failed, took⟩ | ⟨arrived, answered, takes⟩⟩ :=
    job.exchange_cases alike files occasion query reply
  · refine ⟨middle, took, .inl ⟨e, fault, ?_⟩⟩
    simp only [bulkStep, failed]
  · rw [left, unchanged, Exchange.paths, nothing] at takes
    have fault := Exchange.fault_of_arrived job arrived
    have took : job.Took fetch x p middle := takes middle (.refl middle)
    rw [unwritten, Option.or_none] at fault
    obtain ⟨e, lost, unread⟩ | ⟨response, read, known, held⟩ :=
      job.readResponse_cases x (by rw [asked]; rfl)
    · rw [lost, Option.some_or] at fault
      refine ⟨middle, took, .inl ⟨e, fault, ?_⟩⟩
      simp only [bulkStep, answered, unread]
    · rw [read, Option.none_or] at fault
      obtain ⟨e, lost, missing⟩ | ⟨next, there, found, next?⟩ :=
        cursorOf_cases (.inr ⟨_, asked⟩) held
      · refine ⟨middle, took, .inl ⟨e, by rw [fault, lost], ?_⟩⟩
        simp only [bulkStep, answered, known, missing]
      · have listed : documentsIn x.body = response.documents := by rw [documentsIn, held]
        rw [listed]
        by_cases empty : response.documents = []
        · refine ⟨middle.tell (.pageEmpty cursor.page.toNat),
            takes _ ⟨rfl, rfl, rfl, rfl, (List.append_nil _).symm⟩, .inr ⟨by rw [fault, there], next, next?, ?_⟩⟩
          simp only [bulkStep, answered, known, found, if_pos empty]
        · refine ⟨middle, took, .inr ⟨by rw [fault, there], next, next?, ?_⟩⟩
          cases data : job.dataStep fetch cursor.page middle with
          | mk result after =>
              cases result with
              | error e => simp only [bulkStep, answered, known, found, if_neg empty, data]
              | ok done => simp only [bulkStep, answered, known, found, if_neg empty, data]

end Requests

end Job

end IndexExport.Export
