import IndexExport.Text.Split
/-!
# Text in bytes

Bytes are the text of a file if they are UTF-8. Of a file that is not, the lines before the
first fault can still be read one by one.
-/
set_option autoImplicit false

namespace IndexExport.Text

def utf8? (bytes : List UInt8) : Option (List Char) :=
  (String.fromUTF8? ⟨bytes.toArray⟩).map String.toList

/-- The text of the lines up to the first that is not UTF-8. -/
def textOfLines : List (List UInt8) → List Char
  | [] => []
  | line :: rest =>
    match utf8? line with
    | some cs => cs ++ textOfLines rest
    | none => []

def readableLines (bytes : List UInt8) : List Char :=
  textOfLines (splitAfter (· = 0x0A) bytes)

end IndexExport.Text
