/-!
# Binary floating point with 53 bits

A `Magnitude` is a nonnegative number `significand * 2 ^ exponent`. `nearest` rounds a
quotient of natural numbers to the closest magnitude that has at most 53 bits and an
exponent of at least -1074; of two that are equally close it takes the one with the even
significand. A quotient too large for the format has no nearest magnitude.

All arithmetic is exact on natural numbers and rounds once at its end.
-/
set_option autoImplicit false

namespace IndexExport.Decimal

structure Magnitude where
  significand : Nat
  exponent : Int
  deriving DecidableEq, Repr, Inhabited

/-- A magnitude with a sign; zero has both signs. -/
structure Binary64 where
  negative : Bool
  magnitude : Magnitude
  deriving DecidableEq, Repr, Inhabited

def leastExponent : Int := -1074

def greatestExponent : Int := 971

/-- The least significand of 53 digits is `2 ^ 52`. -/
def leastFull : Nat := 4503599627370496

namespace Magnitude

def zero : Magnitude := ⟨0, leastExponent⟩

/-- The quotient `num / den`, of which `e` binary places are split off: a numerator and
a denominator of `num / (den * 2 ^ e)`. -/
def scaled (num den : Nat) : Int → Nat × Nat
  | .ofNat e => (num, den * Nat.pow 2 e)
  | .negSucc e => (num * Nat.pow 2 (e + 1), den)

def roundHalfEven (num den : Nat) : Nat :=
  let q := num / den
  let r := num % den
  if 2 * r > den ∨ (2 * r = den ∧ q % 2 = 1) then q + 1 else q

/-- The exponent at which the quotient has 53 binary digits, if the format reaches so far
down. -/
def exponentOf (num den : Nat) : Int :=
  let guess : Int := (Nat.log2 num : Int) - (Nat.log2 den : Int) - 52
  let parts := scaled num den guess
  max leastExponent (if parts.1 / parts.2 < leastFull then guess - 1 else guess)

def nearest (num den : Nat) : Option Magnitude :=
  if num = 0 then some zero
  else
    let e := exponentOf num den
    let parts := scaled num den e
    let q := roundHalfEven parts.1 parts.2
    let rounded : Magnitude := if q = 2 * leastFull then ⟨leastFull, e + 1⟩ else ⟨q, e⟩
    if rounded.exponent > greatestExponent then none else some rounded

def ratio (x : Magnitude) : Nat × Nat :=
  match x.exponent with
  | .ofNat e => (x.significand * Nat.pow 2 e, 1)
  | .negSucc e => (x.significand, Nat.pow 2 (e + 1))

def times (x y : Magnitude) : Option Magnitude :=
  nearest (x.ratio.1 * y.ratio.1) (x.ratio.2 * y.ratio.2)

def dividedBy (x y : Magnitude) : Option Magnitude :=
  nearest (x.ratio.1 * y.ratio.2) (x.ratio.2 * y.ratio.1)

def greatestTen : Nat := 308

def tenTo (k : Nat) : Magnitude :=
  (nearest (Nat.pow 10 k) 1).getD zero

/-- Division by `10 ^ (greatestTen * steps + places)`, the steps first, for as long as
something is left to divide. -/
def shrink (x : Magnitude) (places : Nat) : Nat → Option Magnitude
  | 0 => x.dividedBy (tenTo places)
  | steps + 1 =>
    if x.significand = 0 then some x
    else
      match x.dividedBy (tenTo greatestTen) with
      | none => none
      | some smaller => shrink smaller places steps

/-- The magnitude of `significand * 10 ^ exponent`, formed from the rounded significand
by one multiplication or by divisions. `none` when it is too large. -/
def ofDecimal (significand : Nat) (exponent : Int) : Option Magnitude :=
  match nearest significand 1 with
  | none => none
  | some x =>
    match exponent with
    | .ofNat e =>
      if e ≤ greatestTen then x.times (tenTo e)
      else if x.significand = 0 then some x
      else none
    | .negSucc e => x.shrink (e % greatestTen + 1) (e / greatestTen)

end Magnitude

end IndexExport.Decimal
