import IndexExport.Text.Digits
/-!
# Percent encoding

A character that may not stand for itself is written as the bytes of its UTF-8 encoding,
each as a percent sign and two hexadecimal digits. Each part of an address has its own
set of ASCII characters that stand for themselves; others never do.
-/
set_option autoImplicit false

namespace IndexExport.Url

def upperHex (n : Nat) : Char :=
  if n < 10 then Char.ofNat (0x30 + n) else Char.ofNat (0x41 + (n - 10))

def percentByte (b : UInt8) : List Char :=
  ['%', upperHex (b.toNat / 16), upperHex (b.toNat % 16)]

/-- A character as itself if `kept` allows it and it is ASCII, else as its bytes. -/
def percentChar (kept : Char → Bool) (c : Char) : List Char :=
  if c.toNat < 0x80 && kept c then [c] else (String.utf8EncodeChar c).flatMap percentByte

def percentEncode (kept : Char → Bool) (cs : List Char) : List Char :=
  cs.flatMap (percentChar kept)

/-- The bytes of a text in which `%` and two hexadecimal digits stand for a byte; a
percent sign with anything else after it stands for itself. -/
def percentDecode : List Char → List UInt8
  | [] => []
  | '%' :: a :: b :: rest =>
    match Text.hexValue? a, Text.hexValue? b with
    | some high, some low => UInt8.ofNat (16 * high + low) :: percentDecode rest
    | _, _ => String.utf8EncodeChar '%' ++ percentDecode (a :: b :: rest)
  | c :: rest => String.utf8EncodeChar c ++ percentDecode rest

/-! ## What stands for itself -/

def keptOpaque (c : Char) : Bool :=
  0x20 ≤ c.toNat && c.toNat ≠ 0x7F

def keptInFragment (c : Char) : Bool :=
  keptOpaque c && c ≠ ' ' && c ≠ '"' && c ≠ '<' && c ≠ '>' && c.toNat ≠ 0x60

def keptInPath (c : Char) : Bool :=
  keptInFragment c && c ≠ '#' && c ≠ '?' && c ≠ '\x7b' && c ≠ '\x7d'

def keptInUserinfo (c : Char) : Bool :=
  keptInPath c && c ≠ '/' && c ≠ ':' && c ≠ ';' && c ≠ '=' && c ≠ '@' && c ≠ '[' &&
    c ≠ '\\' && c ≠ ']' && c ≠ '^' && c ≠ '|'

/-- Characters of a query; the apostrophe only where the scheme is not special. -/
def keptInQuery (special : Bool) (c : Char) : Bool :=
  keptOpaque c && c ≠ ' ' && c ≠ '"' && c ≠ '#' && c ≠ '<' && c ≠ '>' &&
    !(special && c = '\'')

end IndexExport.Url
