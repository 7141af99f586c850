import IndexExport.Text.Blank
import IndexExport.Text.Digits
import IndexExport.Text.Removal
/-!
# Cleaned texts

`cleanQuery` prepares text that a user typed for the query: typographic quotes become
plain ones, and the two words that would call a function of the query language are taken
out, each in one pass from the left.

`excerpt` prepares the body of a refused request for a message: blanks around it and
controls in it go, and of a long text only the start is kept, with a note of its length.
-/
set_option autoImplicit false

namespace IndexExport.Text

def isStylizedQuote (c : Char) : Bool :=
  c = '\u201C' || c = '\u201D' || c = '\u00AB' || c = '\u00BB'

def plainQuote (c : Char) : Char :=
  if isStylizedQuote c then '"' else c

def functionWord : List Char := ['\x7b', '!', 'f', 'u', 'n', 'c', '\x7d']

def valueWord : List Char := ['_', 'v', 'a', 'l', '_']

def cleanChars (cs : List Char) : List Char :=
  removeAll valueWord (removeAll functionWord (cs.map plainQuote))

def cleanQuery (s : String) : String :=
  String.ofList (cleanChars s.toList)

/-! ## Excerpts -/

/-- A character that may stand in a message: no control below the space but tab, line
feed and carriage return. -/
def isPrintable (c : Char) : Bool :=
  0x20 ≤ c.toNat || c = '\t' || c = '\n' || c = '\r'

def stripped (cs : List Char) : List Char :=
  (trim cs).filter isPrintable

def excerptLimit : Nat := 500

def excerptKept : Nat := excerptLimit - 50

def shorteningNote (length : Nat) : List Char :=
  "... (truncated, original length: ".toList ++ decimal length ++ " chars)".toList

def excerptChars (cs : List Char) : List Char :=
  let text := stripped cs
  if text.length > excerptLimit then text.take excerptKept ++ shorteningNote text.length
  else text

def excerpt (s : String) : String :=
  String.ofList (excerptChars s.toList)

end IndexExport.Text
