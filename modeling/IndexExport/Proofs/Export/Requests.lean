import IndexExport.Export.Walk
import IndexExport.Proofs.Select.Parameters
/-!
# What a request changes

Whatever comes of a request, it is one more among those that were sent, and nothing but the
log changes beside. `Answered` says that the index answers a query with success, so that
the request gives the body of the answer.
-/
set_option autoImplicit false

namespace IndexExport.Export

namespace Progress

theorem setOrRemove_query (p : Progress) (key : String) (value : Option String) :
    (p.setOrRemove key value).query = p.query.setOrRemove key value := by
  cases value <;> rfl

/-- At most the query and the log differ. -/
structure Alike (p after : Progress) : Prop where
  report : after.report = p.report
  files : after.files = p.files
  sent : after.sent = p.sent

theorem Alike.trans {p middle after : Progress} (first : p.Alike middle)
    (second : middle.Alike after) : p.Alike after :=
  ⟨second.report.trans first.report, second.files.trans first.files,
    second.sent.trans first.sent⟩

theorem alike_setOrRemove (p : Progress) (key : String) (value : Option String) :
    p.Alike (p.setOrRemove key value) := by
  cases value with
  | none => exact ⟨rfl, rfl, rfl⟩
  | some value => exact ⟨rfl, rfl, rfl⟩

/-- One more request was sent. -/
structure Sent (p after : Progress) : Prop where
  query : after.query = p.query
  files : after.files = p.files
  sent : after.sent = p.sent ++ [⟨p.query, p.files⟩]
  report : after.report = { p.report with requests := p.report.requests + 1 }

end Progress

/-- The index answers a query with success, after so many requests before. -/
def Answered (fetch : Fetcher) (before : Nat) (query : SelectQuery) (body : String) : Prop :=
  ∃ answer, (fetch before query.url).1 = .ok answer ∧ answer.isSuccess = true ∧
    answer.body = body

/-- A server that replies with these bodies in turn. -/
def replying (bodies : List String) : Fetcher := fun before _ =>
  (.ok ⟨200, bodies.getD before ""⟩, [])

theorem answered_replying (bodies : List String) (before : Nat) (query : SelectQuery) :
    Answered (replying bodies) before query (bodies.getD before "") :=
  ⟨⟨200, bodies.getD before ""⟩, rfl, rfl, rfl⟩

/-- The clock counts the requests, and the medium takes everything. -/
def counted (sent : Nat) : Page.Occasion := ⟨toString sent, .takes⟩

namespace Job

theorem sent_request (fetch : Fetcher) (p : Progress) : p.Sent (request fetch p).2 := by
  simp only [request]
  split
  · exact ⟨rfl, rfl, rfl, rfl⟩
  · split <;> exact ⟨rfl, rfl, rfl, rfl⟩

theorem request_of_answered {fetch : Fetcher} {p : Progress} {body : String}
    (answered : Answered fetch p.sent.length p.query body) :
    (request fetch p).1 = .ok (p.query.url.text, body) := by
  obtain ⟨answer, arrived, success, rfl⟩ := answered
  have reply : (fetch (p.tell (.requesting p.query.url.text)).sent.length
      (p.tell (.requesting p.query.url.text)).query.url).1 = .ok answer := arrived
  rw [request]
  simp only [reply, success, if_true]

theorem request_eq_of_answered {fetch : Fetcher} {p : Progress} {body : String}
    (answered : Answered fetch p.sent.length p.query body) :
    ∃ after, request fetch p = (.ok (p.query.url.text, body), after) ∧ p.Sent after :=
  ⟨(request fetch p).2, Prod.ext (request_of_answered answered) rfl, sent_request fetch p⟩

/-! ## What an answer says -/

section Answer

variable {response : Select.Response} (url : String)

theorem readResponse_of_read {body : String} (held : Select.Response.read body = .ok response) :
    readResponse url body = .ok response := by
  rw [readResponse, held]

theorem countOf_of_count {total : Nat} (counted : response.count? = some total) :
    countOf url response = .ok total := by
  rw [countOf, counted]

theorem cursorOf_of_cursor {next : String} (found : response.cursor? = some next) :
    cursorOf url response = .ok next := by
  rw [cursorOf, found]

end Answer

end Job

end IndexExport.Export
