import IndexExport.Text.Utf8
/-!
# What a file holds
-/
set_option autoImplicit false

namespace IndexExport.Storage

/-- What a file holds: text, or bytes that are no text. -/
inductive Content where
  | text (value : String)
  | bytes (value : List UInt8)
  deriving DecidableEq, Repr, Inhabited

namespace Content

def ofBytes (bytes : List UInt8) : Content :=
  match Text.utf8? bytes with
  | some cs => .text (String.ofList cs)
  | none => .bytes bytes

/-- What one who goes over a file line by line can read of it. -/
def readable : Content → String
  | .text value => value
  | .bytes value => String.ofList (Text.readableLines value)

end Content

end IndexExport.Storage
