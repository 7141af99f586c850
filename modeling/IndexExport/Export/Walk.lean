import IndexExport.Export.Progress
import IndexExport.Url.Sending
/-!
# The course of an export

An export goes through the states of `State`, and `step` takes it from one to the next
with one request, or with a request for the cursor and one for the data. The first failure
ends it, and what was written before stays.

A format that paginates by itself writes a page before it looks for the next cursor. The
others look for the cursor first, and ask for data only where the index lists documents.

Nothing bounds the number of pages but the index, so `walk` is given how many steps it may
take; `Outcome` keeps a walk that is not over apart from one that is.
-/
set_option autoImplicit false

namespace IndexExport.Export

inductive State where
  | counting
  | single (rows : Nat)
  | paging (cursor : Cursor)
  | done
  deriving DecidableEq, Repr, Inhabited

def cursorOrder : String := "id asc"

namespace Job

def firstState (job : Job) : State :=
  if job.descriptor.paginates then .paging .start else .counting

def applyFieldList (job : Job) (p : Progress) : Progress :=
  p.setOrRemove "fl" job.descriptor.fieldList

def applyResponseWriter (job : Job) (p : Progress) : Progress :=
  p.setOrRemove "wt" job.descriptor.responseWriter

def prepare (job : Job) (p : Progress) : Progress :=
  if job.descriptor.paginates then
    job.applyFieldList ((p.set "rows" (toString job.rowsPerPage)).set "sort" cursorOrder)
  else p

/-! ## Requests -/

/-- Sends the query as it stands. Returns the address and the body of the answer. -/
def request (fetch : Fetcher) (p : Progress) : Reached (String × String) :=
  let url := p.query.url.text
  let told := p.tell (.requesting url)
  let (reply, notices) := fetch told.sent.length told.query.url
  let after := told.send.tellAll notices
  match reply with
  | .error reason =>
    (.error (.request (.unanswered url told.query.url.requested.text reason)), after)
  | .ok answer =>
    if answer.isSuccess then (.ok (url, answer.body), after)
    else
      (.error (.request (.refused answer.status url (Text.excerpt answer.body))), after)

def readResponse (url body : String) : Except Failure Select.Response :=
  match Select.Response.read body with
  | .ok response => .ok response
  | .error fault => .error (.request (.unreadable url fault))

def countOf (url : String) (response : Select.Response) : Except Failure Nat :=
  match response.count? with
  | some total => .ok total
  | none => .error (.request (.uncounted url))

def cursorOf (url : String) (response : Select.Response) : Except Failure String :=
  match response.cursor? with
  | some next => .ok next
  | none => .error (.request (.withoutCursor url))

/-! ## Pages -/

def pagePath (job : Job) (page : UInt32) : String :=
  Storage.join job.directory
    ("page" ++ toString page.toNat ++ "." ++ job.descriptor.extension)

def writePayload (job : Job) (page : UInt32) (payload : Page.Payload) (p : Progress) :
    Reached Unit :=
  let path := job.pagePath page
  let writer := job.descriptor.writer
  let attempt := writer.write (job.occasion p.sent.length) payload path p.files
  let after := { p.tellAll attempt.notices with files := attempt.files }
  match attempt.result with
  | .error e => (.error (.page e), after)
  | .ok () => (.ok (), (after.tell (.pageWritten path writer.name)).addFile path)

/-- Writes documents, unless there are none. -/
def writeDocuments (job : Job) (page : UInt32) (documents : List Json) (p : Progress) :
    Reached Unit :=
  if documents = [] then (.ok (), p.tell (.nothingWritten page.toNat))
  else
    match job.writePayload page (.documents documents) p with
    | (.error e, p) => (.error e, p)
    | (.ok (), p) => (.ok (), p.addDocuments documents.length)

def writeAnswer (job : Job) (page : UInt32) (url body : String) (p : Progress) :
    Reached Unit :=
  match job.descriptor.payload with
  | .tabular => job.writePayload page (.tabular body) p
  | .documents =>
    match readResponse url body with
    | .error e => (.error e, p)
    | .ok response => job.writeDocuments page response.documents p

/-! ## Steps -/

def follow (cursor : Cursor) (next : String) : State :=
  if (cursor.advance next).done then .done else .paging (cursor.advance next)

def afterCount (job : Job) (total : Nat) : State :=
  if total = 0 then .done
  else if total < job.rowsPerPage then .single total
  else .paging .start

def countStep (job : Job) (fetch : Fetcher) (p : Progress) : Reached State :=
  let asked := ((p.tell .counting).set "rows" "0").set "wt" "json" |>.setOrRemove "fl" none
  match request fetch asked with
  | (.error e, p) => (.error e, p)
  | (.ok (url, body), p) =>
    match readResponse url body with
    | .error e => (.error e, p)
    | .ok response =>
      match countOf url response with
      | .error e => (.error e, p)
      | .ok total => (.ok (job.afterCount total), (p.count total).tell (.counted total))

def singleStep (job : Job) (fetch : Fetcher) (rows : Nat) (p : Progress) : Reached State :=
  let asked :=
    job.applyFieldList (job.applyResponseWriter
      ((p.tell .fetchingAll).set "rows" (toString rows)))
  match request fetch asked with
  | (.error e, p) => (.error e, p)
  | (.ok (url, body), p) =>
    match job.writeAnswer 1 url body p with
    | (.error e, p) => (.error e, p)
    | (.ok (), p) => (.ok .done, p)

/-- A page whose answer carries the next cursor. -/
def pageStep (job : Job) (fetch : Fetcher) (cursor : Cursor) (p : Progress) :
    Reached State :=
  let asked := (p.tell (.fetchingPage cursor.page.toNat)).set "cursorMark" cursor.current
  match request fetch asked with
  | (.error e, p) => (.error e, p)
  | (.ok (url, body), p) =>
    match readResponse url body with
    | .error e => (.error e, p)
    | .ok response =>
      match job.writeDocuments cursor.page response.documents p with
      | (.error e, p) => (.error e, p)
      | (.ok (), p) =>
        match cursorOf url response with
        | .error e => (.error e, p)
        | .ok next => (.ok (follow cursor next), p)

def askForCursor (job : Job) (cursor : Cursor) (p : Progress) : Progress :=
  (((((p.tell (.fetchingPage cursor.page.toNat)).set "rows" (toString job.rowsPerPage)).set
    "sort" cursorOrder).set "cursorMark" cursor.current).set "wt" "json").set "fl" "id"

def dataStep (job : Job) (fetch : Fetcher) (page : UInt32) (p : Progress) : Reached Unit :=
  match request fetch (job.applyFieldList (job.applyResponseWriter p)) with
  | (.error e, p) => (.error e, p)
  | (.ok (url, body), p) => job.writeAnswer page url body p

/-- A page whose cursor and data are asked for apart. -/
def bulkStep (job : Job) (fetch : Fetcher) (cursor : Cursor) (p : Progress) :
    Reached State :=
  match request fetch (job.askForCursor cursor p) with
  | (.error e, p) => (.error e, p)
  | (.ok (url, body), p) =>
    match readResponse url body with
    | .error e => (.error e, p)
    | .ok response =>
      match cursorOf url response with
      | .error e => (.error e, p)
      | .ok next =>
        if response.documents = [] then
          (.ok (follow cursor next), p.tell (.pageEmpty cursor.page.toNat))
        else
          match job.dataStep fetch cursor.page p with
          | (.error e, p) => (.error e, p)
          | (.ok (), p) => (.ok (follow cursor next), p)

def step (job : Job) (fetch : Fetcher) (state : State) (p : Progress) : Reached State :=
  match state with
  | .counting => job.countStep fetch p
  | .single rows => job.singleStep fetch rows p
  | .paging cursor =>
    if job.descriptor.paginates then job.pageStep fetch cursor p
    else job.bulkStep fetch cursor p
  | .done => (.ok .done, p)

/-! ## The whole -/

inductive Outcome where
  | finished (progress : Progress)
  | failed (failure : Failure) (progress : Progress)
  | unfinished (state : State) (progress : Progress)
  deriving Repr

def walk (job : Job) (fetch : Fetcher) : Nat → State → Progress → Outcome
  | _, .done, p => .finished p
  | 0, state, p => .unfinished state p
  | fuel + 1, state, p =>
    match job.step fetch state p with
    | (.error e, p) => .failed e p
    | (.ok next, p) => walk job fetch fuel next p

def run (job : Job) (fetch : Fetcher) (fuel : Nat) (query : SelectQuery)
    (files : Storage.Tree) : Outcome :=
  job.walk fetch fuel job.firstState (job.prepare (.start query files))

def Outcome.progress : Outcome → Progress
  | .finished p | .failed _ p | .unfinished _ p => p

def Outcome.closing : Outcome → List Log.Notice
  | .finished p => [.finished p.report.pagesWritten p.report.requests]
  | _ => []

def Outcome.notices (outcome : Outcome) : List Log.Notice :=
  outcome.progress.notices ++ outcome.closing

end Job

end IndexExport.Export
