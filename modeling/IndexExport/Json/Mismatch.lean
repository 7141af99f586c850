import IndexExport.Json.Place
import IndexExport.Json.Printer
import IndexExport.Text.Inspected
/-!
# JSON of the wrong shape

A `Mismatch` says in what way a value is not of the shape that was asked for, and
`Mismatch.message` puts it into words. `Json.Fault` tells it from a text that is not JSON.
-/
set_option autoImplicit false

namespace IndexExport.Json

inductive Shape where
  | list
  | text
  | count
  | nothing
  | textOrObject
  | filter
  | response
  | resultSet
  deriving DecidableEq, Repr

def Shape.words : Shape → String
  | .list => "a sequence"
  | .text => "a string"
  | .count => "u64"
  | .nothing => "unit"
  | .textOrObject => "string or map"
  | .filter => "struct Filter"
  | .response => "struct SelectResponse"
  | .resultSet => "struct ResultSet"

/-- What was found: the value itself where it is small, else its kind. -/
inductive Found where
  | null
  | boolean (value : Bool)
  | number (value : Number)
  | text (value : String)
  | list
  | object
  deriving Repr

def found : Json → Found
  | .null => .null
  | .boolean b => .boolean b
  | .number n => .number n
  | .text s => .text s
  | .list _ => .list
  | .object _ => .object

def Found.words : Found → String
  | .null => "null"
  | .boolean b => "boolean `" ++ (if b then "true" else "false") ++ "`"
  | .number (.whole n) => "integer `" ++ String.ofList (Text.signedDecimal n) ++ "`"
  | .number (.double x) => "floating point `" ++ String.ofList x.render ++ "`"
  | .text s => "string " ++ Text.inspected s
  | .list => "sequence"
  | .object => "map"

inductive Mismatch where
  | wrongKind (found : Found) (expected : Shape)
  | negativeCount (value : Int)
  | notSingleKey
  | notWritable (value : Json)
  | missingField (name : String)
  | repeatedField (name : String)
  | tooFewItems (count : Nat)
  | tooManyItems (count : Nat)
  deriving Repr

def Mismatch.message : Mismatch → String
  | .wrongKind found expected => "invalid type: " ++ found.words ++ ", expected " ++ expected.words
  | .negativeCount n =>
    "invalid value: integer `" ++ String.ofList (Text.signedDecimal n) ++ "`, expected u64"
  | .notSingleKey => "invalid value: map, expected map with a single key"
  | .notWritable value => "expected a string or number, got " ++ value.compact
  | .missingField name => "missing field `" ++ name ++ "`"
  | .repeatedField name => "duplicate field `" ++ name ++ "`"
  | .tooFewItems count =>
    "invalid length " ++ toString count ++ ", expected struct Filter with 6 elements"
  | .tooManyItems count =>
    "invalid length " ++ toString count ++ ", expected fewer elements in array"

/-- Why a text could not be read. The place is known where a value of the wrong shape is
found while the text is being read. -/
inductive Fault where
  | notJson
  | mismatch (mismatch : Mismatch) (place : Option Place)
  deriving Repr

/-- The words for a fault. For a text that is not JSON the reader of the program has words of its
own, which tell what was expected and where. They are left out here, and one text stands for all
of them. -/
def Fault.message : Fault → String
  | .notJson => "the text is not JSON"
  | .mismatch m place => m.message ++ (place.map Place.words).getD ""

end IndexExport.Json
