import IndexExport.Url.Basic
import IndexExport.Url.Host
import IndexExport.Url.Path
/-!
# Reading an address

`Url.read` takes a text apart from left to right: the scheme, then under a special scheme
always an authority, under another one only after two slashes, then path, query and
fragment. Controls and spaces around the text and tabs and line ends in it do not count.
The first part that cannot be read says why the text is refused.

An address whose path is opaque, as in `scheme:something`, is no base for a request and is
refused as well.
-/
set_option autoImplicit false

namespace IndexExport.Url

def isEdge (c : Char) : Bool :=
  c.toNat ≤ 0x20

def isPassedOver (c : Char) : Bool :=
  c = '\t' || c = '\n' || c = '\r'

/-- The characters of a text that count. -/
def counted (cs : List Char) : List Char :=
  ((cs.dropWhile isEdge).reverse.dropWhile isEdge).reverse.filter fun c => !isPassedOver c

def isSchemeChar (c : Char) : Bool :=
  c.isAlphanum || c = '+' || c = '-' || c = '.'

def splitScheme (cs : List Char) : Option (List Char × List Char) :=
  match Text.breakAt (fun c => !isSchemeChar c) cs with
  | (first :: more, ':' :: rest) =>
    if first.isAlpha then some ((first :: more).map Char.toLower, rest) else none
  | _ => none

/-! ## Query and fragment -/

def opensTail (c : Char) : Bool :=
  c = '?' || c = '#'

def afterMark (mark : Char) : List Char → Option (List Char)
  | c :: rest => if c = mark then some rest else none
  | [] => none

def tail (special : Bool) (cs : List Char) : Option (List Char) × Option (List Char) :=
  let (front, back) := Text.breakAt (· = '#') cs
  ((afterMark '?' front).map (percentEncode (keptInQuery special)),
    (afterMark '#' back).map (percentEncode keptInFragment))

/-! ## Authority -/

/-- The text before the last `@` and the text after it. -/
def splitAtLast : List Char → Option (List Char × List Char)
  | [] => none
  | c :: rest =>
    match splitAtLast rest with
    | some (before, after) => some (c :: before, after)
    | none => if c = '@' then some ([], rest) else none

/-- User name and password in written form; the colon before an empty password is left
out. -/
def writtenUserinfo (cs : List Char) : List Char :=
  let (name, rest) := Text.breakAt (· = ':') cs
  let password := rest.drop 1
  percentEncode keptInUserinfo name ++
    if password = [] then [] else ':' :: percentEncode keptInUserinfo password

def splitHost (inBrackets : Bool) : List Char → List Char × List Char
  | [] => ([], [])
  | c :: rest =>
    if c = ':' && !inBrackets then ([], c :: rest)
    else
      let (host, after) :=
        splitHost (if c = '[' then true else if c = ']' then false else inBrackets) rest
      (c :: host, after)

def greatestHostNumber : Nat := 65535

/-- The number that a text begins with, unless it is too great, and what follows it, which
may only be a backslash and more. -/
def hostNumberDigits (cs : List Char) : Except Refusal (Option Nat × List Char) :=
  let digits := cs.takeWhile Char.isDigit
  let rest := cs.dropWhile Char.isDigit
  if greatestHostNumber < Text.ofDigits digits then .error .badHostNumber
  else if rest = [] ∨ rest.head? = some '\\' then
    .ok (if digits = [] then none else some (Text.ofDigits digits), rest)
  else .error .badHostNumber

def readHostNumber : List Char → Except Refusal (Option Nat × List Char)
  | ':' :: cs => hostNumberDigits cs
  | cs => .ok (none, cs)

/-- A number that is not the one that the scheme implies. -/
def unusualNumber (kind : SchemeKind) (number : Option Nat) : Option Nat :=
  match kind with
  | .special usual => if number = some usual then none else number
  | _ => number

structure Authority where
  userinfo : List Char
  host : List Char
  hostNumber : Option Nat
  rest : List Char

def endsAuthority (special : Bool) (c : Char) : Bool :=
  isSeparator special c || opensTail c

def readHostAndNumber (toAscii : Host.ToAscii) (kind : SchemeKind) (userinfo cs after : List Char) :
    Except Refusal Authority := do
  let (hostText, numberText) := splitHost false cs
  let host ← if kind.isSpecial then Host.special toAscii hostText else Host.opaqueHost hostText
  if host = [] ∧ numberText ≠ [] then .error .emptyHost
  else
    let (number, rest) ← readHostNumber numberText
    if host = [] ∧ userinfo ≠ [] then .error .emptyHost
    else .ok ⟨userinfo, host, unusualNumber kind number, rest ++ after⟩

def readAuthority (toAscii : Host.ToAscii) (kind : SchemeKind) (cs : List Char) :
    Except Refusal Authority :=
  let (authority, after) := Text.breakAt (endsAuthority kind.isSpecial) cs
  match splitAtLast authority with
  | none => readHostAndNumber toAscii kind [] authority after
  | some (user, hostAndNumber) =>
    if user = [] ∧ hostAndNumber = [] ∧ after ≠ [] then .error .emptyHost
    else readHostAndNumber toAscii kind (writtenUserinfo user) hostAndNumber after

/-! ## The whole -/

def withAuthority (toAscii : Host.ToAscii) (kind : SchemeKind) (scheme cs : List Char) :
    Except Refusal Url :=
  (readAuthority toAscii kind cs).map fun authority =>
    let (pathChars, rest) := Text.breakAt opensTail authority.rest
    let (query, fragment) := tail kind.isSpecial rest
    { scheme, query, fragment
      userinfo := authority.userinfo
      host := some authority.host
      hostNumber := authority.hostNumber
      path :=
        if pathChars = [] ∧ !kind.isSpecial then []
        else absolutePath kind.isSpecial pathChars }

def withoutAuthority (scheme cs : List Char) : Url :=
  let (pathChars, rest) := Text.breakAt opensTail cs
  let (query, fragment) := tail false rest
  { scheme, query, fragment
    userinfo := []
    host := none
    hostNumber := none
    path := absolutePath false pathChars }

/-- The host of a file and the text of the segments of its path. This machine is no host,
and neither is a drive letter. Where the host is left empty, the slash after it opens one
more segment. -/
def fileHost (toAscii : Host.ToAscii) : List Char → Except Refusal (List Char × List Char)
  | [] => .ok ([], [])
  | [a] => .ok ([], if isSeparator true a then [] else [a])
  | a :: b :: rest =>
    if !isSeparator true a then .ok ([], a :: b :: rest)
    else if !isSeparator true b then .ok ([], b :: rest)
    else
      let (name, after) := Text.breakAt (endsAuthority true) rest
      if isDriveLetter name then .ok ([], rest)
      else if name = [] then .ok ([], after)
      else
        (Host.special toAscii name).map fun host =>
          if host = "localhost".toList then ([], after)
          else (host, afterSeparator true after)

def ofFile (toAscii : Host.ToAscii) (scheme cs : List Char) : Except Refusal Url :=
  (fileHost toAscii cs).map fun (host, after) =>
    let (pathChars, rest) := Text.breakAt opensTail after
    let (query, fragment) := tail true rest
    let parts := fileSegments pathChars
    { scheme, query, fragment
      userinfo := []
      host := some (if beginsWithDrive parts then [] else host)
      hostNumber := none
      path := pathText (withoutEmptyStart parts) }

def ofOther (toAscii : Host.ToAscii) (scheme : List Char) : List Char → Except Refusal Url
  | '/' :: '/' :: rest => withAuthority toAscii .other scheme rest
  | '/' :: rest => .ok (withoutAuthority scheme ('/' :: rest))
  | _ => .error .opaqueBase

def read (toAscii : Host.ToAscii) (text : String) : Except Refusal Url :=
  match splitScheme (counted text.toList) with
  | none => .error .noBase
  | some (scheme, rest) =>
    match schemeKind scheme with
    | .special usual =>
      withAuthority toAscii (.special usual) scheme (rest.dropWhile (isSeparator true))
    | .file => ofFile toAscii scheme rest
    | .other => ofOther toAscii scheme rest

end IndexExport.Url
