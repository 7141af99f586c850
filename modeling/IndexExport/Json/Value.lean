import IndexExport.Decimal.Binary64
/-!
# JSON values

An object is a list of members in which each key stands once. `Members.put` is the only
way to add one: a key that is there keeps its place and takes the new value, a new key
goes to the end.

Numbers are whole when they are written without point and exponent and fit into a signed
or unsigned word of 64 bits; every other number is a binary floating point number.
-/
set_option autoImplicit false

namespace IndexExport

inductive Json.Number where
  | whole (value : Int)
  | double (value : Decimal.Binary64)
  deriving DecidableEq, Repr, Inhabited

inductive Json where
  | null
  | boolean (value : Bool)
  | number (value : Json.Number)
  | text (value : String)
  | list (items : List Json)
  | object (members : List (String × Json))
  deriving Repr, Inhabited, BEq

namespace Json

abbrev Members := List (String × Json)

/-- The members with `key` set to `value`. -/
def Members.put (key : String) (value : Json) : Members → Members
  | [] => [(key, value)]
  | (k, v) :: rest => if k = key then (k, value) :: rest else (k, v) :: Members.put key value rest

def Members.get? (key : String) : Members → Option Json
  | [] => none
  | (k, v) :: rest => if k = key then some v else Members.get? key rest

/-- The value of a key; a value that is no object has no keys. -/
def get? (key : String) : Json → Option Json
  | .object members => Members.get? key members
  | _ => none

def asText? : Json → Option String
  | .text s => some s
  | _ => none

end Json

end IndexExport
