import IndexExport.Text.Split
import IndexExport.Text.Utf8
import IndexExport.Url.Basic
import IndexExport.Url.Percent
/-!
# Addresses that requests can be sent to

Requests go to `http` and `https` addresses only. User and password are no part of the
address of a request; they are sent apart. What is left may not be too long, and a host
may not hold characters that an address is not written with.
-/
set_option autoImplicit false

namespace IndexExport.Url

def hasAllowedScheme (url : Url) : Bool :=
  url.scheme = "http".toList || url.scheme = "https".toList

/-- A part of the user information is text once its percent signs are read. -/
def isReadable (cs : List Char) : Bool :=
  (Text.utf8? (percentDecode cs)).isSome

/-- The user can be sent apart: the name is text, and where there is no name the password
is. -/
def hasReadableUser (url : Url) : Bool :=
  let (name, password) := Text.breakAt (· = ':') url.userinfo
  isReadable name && (name ≠ [] || isReadable password)

/-- The address of a request. User and password stay in it where they cannot be sent
apart. -/
def requested (url : Url) : Url :=
  if url.hasReadableUser then { url with userinfo := [] } else url

/-- Characters that a domain may hold and the address of a request may not. -/
def isUnwrittenInHost (c : Char) : Bool :=
  c = '"' || c = '\x60' || c = '\x7b' || c = '\x7d'

def longestAddress : Nat := 65534

def isSendable (url : Url) : Bool :=
  url.requested.text.utf8ByteSize ≤ longestAddress && !((url.host.getD []).any isUnwrittenInHost)

end IndexExport.Url
