import IndexExport.Text.Split
import IndexExport.Url.Percent
/-!
# Form encoding

The pairs of a query are written `key=value` with `&` from one to the next. A space
becomes a plus sign; letters, digits and four marks of ASCII stand for themselves; every
other character is percent encoded.
-/
set_option autoImplicit false

namespace IndexExport.Url.Form

abbrev Pair := String × String

def kept (c : Char) : Bool :=
  c.isAlphanum || c = '*' || c = '-' || c = '.' || c = '_'

def encodeChar (c : Char) : List Char :=
  if c = ' ' then ['+'] else percentChar kept c

def encodeText (s : String) : List Char :=
  s.toList.flatMap encodeChar

def encodePair (p : Pair) : List Char :=
  encodeText p.1 ++ '=' :: encodeText p.2

def encode (pairs : List Pair) : List Char :=
  Text.joinWith ['&'] (pairs.map encodePair)

end IndexExport.Url.Form
