import IndexExport.Json.Value
import IndexExport.Text.Digits
/-!
# Numerals of a JSON text

A numeral is the spelling of a number: sign, digits before the point, digits after it,
and an exponent. Its value is formed in one pass that keeps as many leading digits as fit
into a word of 64 bits. A digit before the point that does not fit raises the exponent by
one; a digit after the point that does not fit is passed over, with all that follow it.
-/
set_option autoImplicit false

namespace IndexExport.Json

structure Numeral where
  negative : Bool
  whole : List Char
  fraction : Option (List Char)
  exponent : Option (Bool × List Char)
  deriving DecidableEq, Repr, Inhabited

namespace Numeral

def wordMax : Nat := 18446744073709551615

/-- Appends digits to a significand while they fit. Returns how many digits were taken
and how many were left. -/
def gather : Nat → List Char → Nat × Nat × Nat
  | significand, [] => (significand, 0, 0)
  | significand, d :: ds =>
    let longer := significand * 10 + (d.toNat - '0'.toNat)
    if longer ≤ wordMax then
      let (final, taken, left) := gather longer ds
      (final, taken + 1, left)
    else (significand, 0, ds.length + 1)

def exponentValue : Option (Bool × List Char) → Int
  | none => 0
  | some (true, ds) => -(Text.ofDigits ds : Int)
  | some (false, ds) => Text.ofDigits ds

/-- The number that the numeral stands for, unless it is too large for one. A numeral of
digits only is whole if it fits; zero with a minus sign is a double. -/
def value? (n : Numeral) : Option Number :=
  let (significand, _, dropped) := gather 0 n.whole
  match n.fraction, n.exponent with
  | none, none =>
    if dropped = 0 ∧ n.negative = false then some (.whole significand)
    else if dropped = 0 ∧ significand ≠ 0 ∧ significand ≤ 9223372036854775808 then
      some (.whole (-(significand : Int)))
    else (Decimal.Magnitude.ofDecimal significand dropped).map fun m => .double ⟨n.negative, m⟩
  | fraction, exponent =>
    let (full, taken, _) := gather significand (fraction.getD [])
    (Decimal.Magnitude.ofDecimal full ((dropped : Int) - taken + exponentValue exponent)).map
      fun m => .double ⟨n.negative, m⟩

end Numeral

end IndexExport.Json
