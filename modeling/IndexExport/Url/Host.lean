import IndexExport.Text.Split
import IndexExport.Text.Utf8
import IndexExport.Url.Percent
/-!
# Hosts of an address

Under a special scheme a host is a domain, an IPv4 address or an IPv6 address in brackets;
a domain whose last label is a number must be an IPv4 address. Under any other scheme a
host is opaque text or an IPv6 address. Each is written in one canonical form.

How a domain is put into ASCII is a matter of the tables of UTS 46, which are no part of this
library: whoever reads an address hands in a `ToAscii`. `Host.asciiOnly` is one without tables.
-/
set_option autoImplicit false

namespace IndexExport.Url

inductive Refusal where
  | emptyHost
  | badDomain
  | badDomainCharacter
  | badHostNumber
  | badIpv4
  | badIpv6
  | noBase
  | opaqueBase
  deriving DecidableEq, Repr, Inhabited

def Refusal.message : Refusal → String
  | .emptyHost => "empty host"
  | .badDomain => "invalid international domain name"
  | .badDomainCharacter => "invalid domain character"
  | .badHostNumber => "invalid port number"
  | .badIpv4 => "invalid IPv4 address"
  | .badIpv6 => "invalid IPv6 address"
  | .noBase => "relative URL without a base"
  | .opaqueBase => "relative URL with a cannot-be-a-base base"

namespace Host

/-! ## IPv4 -/

def inBase (base : Nat) (cs : List Char) : Option Nat :=
  cs.foldlM (fun n c =>
    match Text.hexValue? c with
    | some d => if d < base then some (n * base + d) else none
    | none => none) 0

/-- A part of an IPv4 address: decimal, octal after `0`, or hexadecimal after `0x`. -/
def ipv4Part? : List Char → Option Nat
  | [] => none
  | '0' :: 'x' :: cs => inBase 16 cs
  | '0' :: 'X' :: cs => inBase 16 cs
  | '0' :: c :: cs => inBase 8 (c :: cs)
  | cs => inBase 10 cs

def labels (domain : List Char) : List (List Char) :=
  let parts := Text.splitBy (· = '.') domain
  if parts.getLast? = some [] ∧ parts.length > 1 then parts.dropLast else parts

def endsInNumber (domain : List Char) : Bool :=
  match (labels domain).getLast? with
  | none => false
  | some label => (label ≠ [] && label.all Char.isDigit) || (ipv4Part? label).isSome

/-- The address of up to four parts; the last one fills the bytes that are left. -/
def ipv4Value? (parts : List Nat) : Option Nat :=
  match parts.reverse with
  | [] => none
  | last :: before =>
    let room := Nat.pow 256 (5 - parts.length)
    if parts.length > 4 ∨ before.any (· > 255) ∨ last ≥ room then none
    else some (before.reverse.foldl (fun n part => n * 256 + part) 0 * room + last)

def ipv4Text (n : Nat) : List Char :=
  Text.joinWith ['.'] ([n / 16777216, n / 65536 % 256, n / 256 % 256, n % 256].map Text.decimal)

def ipv4 (domain : List Char) : Except Refusal (List Char) :=
  match ((labels domain).mapM ipv4Part?).bind ipv4Value? with
  | some n => .ok (ipv4Text n)
  | none => .error .badIpv4

/-! ## IPv6 -/

def ipv6Piece? (cs : List Char) : Option Nat :=
  if cs = [] ∨ cs.length > 4 then none else inBase 16 cs

def ipv4Byte? (cs : List Char) : Option Nat :=
  match cs with
  | [] => none
  | '0' :: _ :: _ => none
  | _ => if cs.all Char.isDigit ∧ Text.ofDigits cs ≤ 255 then some (Text.ofDigits cs) else none

def embeddedIpv4? (cs : List Char) : Option (List Nat) :=
  match (Text.splitBy (· = '.') cs).mapM ipv4Byte? with
  | some [a, b, c, d] => some [a * 256 + b, c * 256 + d]
  | _ => none

def ipv6Pieces? : List (List Char) → Option (List Nat)
  | [] => some []
  | [last] => if last.elem '.' then embeddedIpv4? last else (ipv6Piece? last).map ([·])
  | piece :: rest => do
    let value ← ipv6Piece? piece
    let values ← ipv6Pieces? rest
    return value :: values

def splitAtGap : List Char → Option (List Char × List Char)
  | [] => none
  | ':' :: ':' :: rest => some ([], rest)
  | c :: rest => (splitAtGap rest).map fun (before, after) => (c :: before, after)

def ipv6Side? (cs : List Char) : Option (List Nat) :=
  if cs = [] then some [] else ipv6Pieces? (Text.splitBy (· = ':') cs)

/-- The eight pieces of an IPv6 address; a gap stands for at least one zero. -/
def ipv6Value? (cs : List Char) : Option (List Nat) :=
  match splitAtGap cs with
  | none => do
    let pieces ← ipv6Side? cs
    if pieces.length = 8 then some pieces else none
  | some (before, after) => do
    if before.elem '.' then none
    let left ← ipv6Side? before
    let right ← ipv6Side? after
    if left.length + right.length ≤ 7 then
      some (left ++ List.replicate (8 - (left.length + right.length)) 0 ++ right)
    else none

def leadingZeros (pieces : List Nat) : Nat :=
  (pieces.takeWhile (· = 0)).length

/-- Place and length of the first of the longest runs of zeros. -/
def longestRun : Nat → List Nat → Nat × Nat
  | _, [] => (0, 0)
  | place, pieces@(_ :: rest) =>
    let here := leadingZeros pieces
    let later := longestRun (place + 1) rest
    if here > 0 ∧ here ≥ later.2 then (place, here) else later

def piecesText (pieces : List Nat) : List Char :=
  Text.joinWith [':'] (pieces.map fun p => Nat.toDigits 16 p)

def ipv6Text (pieces : List Nat) : List Char :=
  let (place, length) := longestRun 0 pieces
  if length ≥ 2 then
    piecesText (pieces.take place) ++ [':', ':'] ++ piecesText (pieces.drop (place + length))
  else piecesText pieces

def bracketed (cs : List Char) : Except Refusal (List Char) :=
  if cs.getLast? = some ']' then
    match ipv6Value? cs.dropLast with
    | some pieces => .ok ('[' :: ipv6Text pieces ++ [']'])
    | none => .error .badIpv6
  else .error .badIpv6

/-! ## Domains and opaque hosts -/

def isForbiddenInDomain (c : Char) : Bool :=
  !keptOpaque c || c = ' ' || c = '#' || c = '%' || c = '/' || c = ':' || c = '<' || c = '>' ||
    c = '?' || c = '@' || c = '[' || c = '\\' || c = ']' || c = '^' || c = '|'

def isForbiddenInOpaque (c : Char) : Bool :=
  c = '\x00' || c = '\t' || c = '\n' || c = '\r' || c = ' ' || c = '#' || c = '/' || c = ':' ||
    c = '<' || c = '>' || c = '?' || c = '@' || c = '[' || c = '\\' || c = ']' || c = '^' ||
    c = '|'

/-- Puts the bytes of a domain into ASCII or refuses them. -/
abbrev ToAscii := List UInt8 → Option (List Char)

def isEncodedLabel (label : List Char) : Bool :=
  "xn--".toList.isPrefixOf label

/-- Takes domains in ASCII alone. Whether a label is the code of one in other characters cannot
be told without tables, so it is refused. -/
def asciiOnly : ToAscii := fun bytes => do
  let decoded ← Text.utf8? bytes
  let lowered := decoded.map Char.toLower
  if decoded.any (fun c => c.toNat ≥ 0x80 || isForbiddenInDomain c) ||
      (Text.splitBy (· = '.') lowered).any isEncodedLabel then none
  else some lowered

def domain (toAscii : ToAscii) (cs : List Char) : Except Refusal (List Char) :=
  match toAscii (percentDecode cs) with
  | none => .error .badDomain
  | some ascii =>
    if ascii = [] then .error .emptyHost
    else if endsInNumber ascii then ipv4 ascii else .ok ascii

def special (toAscii : ToAscii) : List Char → Except Refusal (List Char)
  | [] => .error .emptyHost
  | '[' :: cs => bracketed cs
  | cs => domain toAscii cs

def opaqueHost : List Char → Except Refusal (List Char)
  | '[' :: cs => bracketed cs
  | cs =>
    if cs.any isForbiddenInOpaque then .error .badDomainCharacter
    else .ok (percentEncode keptOpaque cs)

end Host

end IndexExport.Url
