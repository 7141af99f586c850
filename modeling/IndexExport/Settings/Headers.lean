import IndexExport.Settings.Basic
/-!
# Headers of the requests

Each request carries the key and the name of the program. A header holds no control but
the tab.
-/
set_option autoImplicit false

namespace IndexExport.Settings

def isHeaderChar (c : Char) : Bool :=
  c = '\t' || (0x20 ≤ c.toNat && c.toNat ≠ 0x7F)

def isHeaderText (s : String) : Bool :=
  s.toList.all isHeaderChar

inductive HeaderFault where
  | badKey
  | badUserAgent
  deriving DecidableEq, Repr

def headerWords : String := "failed to parse header value"

def HeaderFault.message : HeaderFault → String
  | .badKey => "Invalid API key header value: " ++ headerWords
  | .badUserAgent => "HTTP client initialization error: builder error"

def HeaderFault.cause : HeaderFault → String
  | .badKey => headerWords
  | .badUserAgent => "builder error"

def checkHeaders (s : Settings) : Except HeaderFault Unit :=
  if !isHeaderText s.sentKey then .error .badKey
  else if !isHeaderText s.userAgent then .error .badUserAgent
  else .ok ()

end IndexExport.Settings
