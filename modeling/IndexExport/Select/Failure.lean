import IndexExport.Json.Mismatch
/-!
# What can be wrong with a request
-/
set_option autoImplicit false

namespace IndexExport.Select

/-- Why a request got no answer: its address is none that requests are sent to, or it
cannot be written into one, or nobody is there, or the connection ended early. -/
inductive NoAnswer where
  | schemeNotAllowed
  | notSendable
  | unknownHost
  | closed
  deriving DecidableEq, Repr, Inhabited

def NoAnswer.words (asked : String) : NoAnswer → String
  | .schemeNotAllowed | .notSendable => "builder error for url (" ++ asked ++ ")"
  | .unknownHost | .closed => "error sending request for url (" ++ asked ++ ")"

def NoAnswer.causes : NoAnswer → List String
  | .schemeNotAllowed => ["URL scheme is not allowed"]
  | .notSendable => ["Parsed Url is not a valid Uri"]
  | .unknownHost =>
    ["client error (Connect)", "dns error",
      "failed to lookup address information: Name or service not known"]
  | .closed => ["client error (SendRequest)", "connection closed before message completed"]

/-- Why a request did not give what was asked for. Beside the address of the query stands
the one that was asked, without user and password. -/
inductive Failure where
  | unanswered (url asked : String) (reason : NoAnswer)
  | refused (status : Nat) (url excerpt : String)
  | unreadable (url : String) (fault : Json.Fault)
  | uncounted (url : String)
  | withoutCursor (url : String)
  deriving Repr

def Failure.message : Failure → String
  | .unanswered url asked reason => "Request to " ++ url ++ " failed: " ++ reason.words asked
  | .refused status url excerpt =>
    "HTTP error! status: " ++ toString status ++ " for " ++ url ++ ": " ++ excerpt
  | .unreadable url fault => "Invalid response from " ++ url ++ ": " ++ fault.message
  | .uncounted url => "Response from " ++ url ++ " has no result count"
  | .withoutCursor url => "Response from " ++ url ++ " has no nextCursorMark"

def Failure.causes : Failure → List String
  | .unanswered _ asked reason => reason.words asked :: reason.causes
  | .unreadable _ fault => [fault.message]
  | _ => []

end IndexExport.Select
