import IndexExport.Export.Walk
/-!
# A recorded conversation

A `Conversation` is a host together with its replies in order; a missing reply stands for
a connection that broke. It answers requests as such a host would: only under `http` and
at its own name and number, and with no body where the status allows none.
-/
set_option autoImplicit false

namespace IndexExport.Export

structure Conversation where
  host : String
  number : Nat
  replies : List (Option Answer)
  deriving Repr, Inhabited

def isInterim (status : Nat) : Bool :=
  100 ≤ status && status < 200 && status ≠ 101

def hasNoBody (status : Nat) : Bool :=
  status = 101 || status = 204 || status = 304

/-- The answer as it arrives. After an interim one nothing comes. -/
def Answer.arrived (answer : Answer) : Except Select.NoAnswer Answer :=
  if isInterim answer.status then .error .closed
  else .ok (if hasNoBody answer.status then { answer with body := "" } else answer)

def plainNumber : Nat := 80

def noticesOf (url : String) : Except Select.NoAnswer Answer → List Log.Notice
  | .error _ => [.sent url]
  | .ok answer => [.sent url, .received url answer.status answer.body.utf8ByteSize]

def replyAt (replies : List (Option Answer)) (count : Nat) : Except Select.NoAnswer Answer :=
  match replies[count]?.join with
  | some answer => answer.arrived
  | none => .error .closed

def answering (replies : List (Option Answer)) : Fetcher := fun count url =>
  (replyAt replies count, noticesOf url.text (replyAt replies count))

def silent (reason : Select.NoAnswer) : Fetcher := fun _ url =>
  (.error reason, noticesOf url.text (.error reason))

/-- Enough steps for any walk: each sends a request, and the first one without a reply
ends the walk. -/
def enoughSteps (replies : List (Option Answer)) : Nat :=
  replies.length + 1

namespace Conversation

def reaches (c : Conversation) (url : Url) : Bool :=
  url.scheme = "http".toList && url.isSendable && url.host = some c.host.toList &&
    url.hostNumber.getD plainNumber = c.number

def fetcher (c : Conversation) : Fetcher := fun count url =>
  if !url.hasAllowedScheme then silent .schemeNotAllowed count url
  else if !url.isSendable then silent .notSendable count url
  else if c.reaches url then answering c.replies count url
  else silent .unknownHost count url

def received (c : Conversation) (sent : List Request) : List Request :=
  sent.filter fun r => c.reaches r.query.url

end Conversation

end IndexExport.Export
