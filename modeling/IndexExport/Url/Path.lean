import IndexExport.Text.Split
import IndexExport.Url.Percent
/-!
# Paths of an address

A path is read segment by segment. A segment of one dot is left out and one of two dots
takes the segment before it away; a dot may be percent encoded. Where such a segment is
the last one the path ends with a slash.

A drive letter is never taken away. At the start of the path of a file it is written with
a colon, and slashes at the start of such a path count as one.
-/
set_option autoImplicit false

namespace IndexExport.Url

inductive Step where
  | stay
  | up
  | down
  deriving DecidableEq, Repr

/-- The segment with encoded dots as dots. -/
def plainDots : List Char → List Char
  | '%' :: '2' :: 'e' :: rest => '.' :: plainDots rest
  | '%' :: '2' :: 'E' :: rest => '.' :: plainDots rest
  | c :: rest => c :: plainDots rest
  | [] => []

def step (segment : List Char) : Step :=
  let dots := plainDots segment
  if dots = ['.'] then .stay else if dots = ['.', '.'] then .up else .down

def isDriveLetter : List Char → Bool
  | [c, mark] => c.isAlpha && (mark = ':' || mark = '|')
  | _ => false

/-- A drive letter, also with more after a backslash. -/
def beginsWithDriveLetter : List Char → Bool
  | c :: mark :: rest => isDriveLetter [c, mark] && (rest = [] || rest.head? = some '\\')
  | _ => false

def withColon (segment : List Char) : List Char :=
  if isDriveLetter segment then segment.take 1 ++ [':'] else segment

def take (isFile : Bool) (taken : List (List Char)) (segment : List Char) : List (List Char) :=
  (if isFile ∧ taken = [] then withColon segment else segment) :: taken

/-- The segments without the last one, which stands first, unless that is a drive letter. -/
def dropLastSegment : List (List Char) → List (List Char)
  | [] => []
  | last :: before => if beginsWithDriveLetter last then last :: before else before

def walkSegments (isFile : Bool) (taken : List (List Char)) :
    List (List Char) → List (List Char)
  | [] => taken.reverse
  | [last] =>
    match step last with
    | .down => (take isFile taken last).reverse
    | .stay => ([] :: taken).reverse
    | .up => ([] :: dropLastSegment taken).reverse
  | segment :: next :: rest =>
    match step segment with
    | .down => walkSegments isFile (take isFile taken segment) (next :: rest)
    | .stay => walkSegments isFile taken (next :: rest)
    | .up => walkSegments isFile (dropLastSegment taken) (next :: rest)

def isSeparator (special : Bool) (c : Char) : Bool :=
  c = '/' || (special && c = '\\')

def segments (special : Bool) (cs : List Char) : List (List Char) :=
  (Text.splitBy (isSeparator special) cs).map (percentEncode keptInPath)

def pathText (segments : List (List Char)) : List Char :=
  segments.flatMap ('/' :: ·)

def afterSeparator (special : Bool) : List Char → List Char
  | [] => []
  | c :: rest => if isSeparator special c then rest else c :: rest

def absolutePath (special : Bool) (cs : List Char) : List Char :=
  pathText (walkSegments false [] (segments special (afterSeparator special cs)))

def fileSegments (cs : List Char) : List (List Char) :=
  walkSegments true [] (segments true cs)

def withoutEmptyStart (segments : List (List Char)) : List (List Char) :=
  match segments.dropWhile (· = []) with
  | [] => [[]]
  | more => more

def beginsWithDrive (segments : List (List Char)) : Bool :=
  match segments with
  | first :: _ => isDriveLetter first
  | [] => false

end IndexExport.Url
