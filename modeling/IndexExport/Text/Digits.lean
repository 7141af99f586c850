/-!
# Decimal digits

Numbers in texts are written with the ASCII digits. `decimal` writes a number with no
needless zeros, `padded` with at least a given width; `integer?` reads an optional sign
followed by at least one digit and nothing else.
-/
set_option autoImplicit false

namespace IndexExport.Text

def ofDigits (ds : List Char) : Nat :=
  Nat.ofDigitChars 10 ds 0

def decimal (n : Nat) : List Char :=
  Nat.toDigits 10 n

/-- The digits of a number with zeros in front up to `width`. -/
def padded (width n : Nat) : List Char :=
  let ds := decimal n
  List.replicate (width - ds.length) '0' ++ ds

def signedDecimal : Int → List Char
  | .ofNat n => decimal n
  | .negSucc n => '-' :: decimal (n + 1)

def natural? (cs : List Char) : Option Nat :=
  if cs ≠ [] ∧ cs.all Char.isDigit then some (ofDigits cs) else none

/-- An optional sign, then at least one digit. -/
def integer? : List Char → Option Int
  | '+' :: cs => (natural? cs).map Int.ofNat
  | '-' :: cs => (natural? cs).map fun n => -(n : Int)
  | cs => (natural? cs).map Int.ofNat

def hexDigit (n : Nat) : Char :=
  Nat.digitChar n

def hexValue? (c : Char) : Option Nat :=
  let n := c.toNat
  if 0x30 ≤ n ∧ n ≤ 0x39 then some (n - 0x30)
  else if 0x61 ≤ n ∧ n ≤ 0x66 then some (n - 0x61 + 10)
  else if 0x41 ≤ n ∧ n ≤ 0x46 then some (n - 0x41 + 10)
  else none

end IndexExport.Text
