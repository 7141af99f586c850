import IndexExport.Decimal.Binary64
import IndexExport.Text.Digits
/-!
# The shortest decimal that reads back

Of all decimals that round to a given magnitude, `shortest` takes one with the fewest
digits, of these the nearest, and of two equally near the one with the even last digit.
It looks at the two neighbours of the number on the grid with one digit, then on the grid
with two digits, up to seventeen.
-/
set_option autoImplicit false

namespace IndexExport.Decimal

structure Scientific where
  digits : Nat
  exponent : Int
  deriving DecidableEq, Repr, Inhabited

/-- Numerators over one denominator: the number and the ends of the interval of reals
that round to it. -/
structure Interval where
  low : Nat
  value : Nat
  high : Nat
  denominator : Nat
  closed : Bool

namespace Magnitude

/-- The reals that round to the number. The gap below a power of two is half as wide as
the one above it, and the ends belong to the interval when the significand is even. -/
def interval (x : Magnitude) : Interval :=
  let unit := (Magnitude.mk 1 x.exponent).ratio
  let value := 4 * x.ratio.1
  let narrow : Bool := x.significand = leastFull && x.exponent > leastExponent
  { low := value - (if narrow then unit.1 else 2 * unit.1)
    value := value
    high := value + 2 * unit.1
    denominator := 4 * x.ratio.2
    closed := x.significand % 2 = 0 }

end Magnitude

namespace Interval

def shifted (i : Interval) : Int → Interval
  | .ofNat e => { i with denominator := i.denominator * Nat.pow 10 e }
  | .negSucc e =>
    let f := Nat.pow 10 (e + 1)
    { i with low := i.low * f, value := i.value * f, high := i.high * f }

def holds (i : Interval) (n : Nat) : Bool :=
  let m := n * i.denominator
  if i.closed then i.low ≤ m && m ≤ i.high else i.low < m && m < i.high

/-- The integer of the interval that is nearest to the value, if there is any: one of
the value's two neighbours. -/
def nearestInteger? (i : Interval) : Option Nat :=
  let below := i.value / i.denominator
  let rest := i.value % i.denominator
  match i.holds below, i.holds (below + 1) with
  | false, false => none
  | true, false => some below
  | false, true => some (below + 1)
  | true, true =>
    if 2 * rest < i.denominator ∨ (2 * rest = i.denominator ∧ below % 2 = 0) then some below
    else some (below + 1)

def leadingZeros (num den : Nat) : Nat → Nat
  | 0 => 0
  | fuel + 1 => if den ≤ num then 0 else leadingZeros (num * 10) den fuel + 1

def magnitudeOfTen (i : Interval) : Int :=
  if i.denominator ≤ i.value then ((Text.decimal (i.value / i.denominator)).length : Int) - 1
  else -(leadingZeros i.value i.denominator 400 : Int)

/-- Tries the grids with `17 - remaining` digits and more. -/
def firstHit (i : Interval) (top : Int) : Nat → Scientific
  | 0 => ⟨0, 0⟩
  | remaining + 1 =>
    let e := top - (16 - (remaining : Int))
    match (i.shifted e).nearestInteger? with
    | some d => ⟨d, e⟩
    | none => firstHit i top remaining

end Interval

def Scientific.stripped (d : Scientific) : Nat → Scientific
  | 0 => d
  | fuel + 1 =>
    if d.digits ≠ 0 ∧ d.digits % 10 = 0 then
      Scientific.stripped ⟨d.digits / 10, d.exponent + 1⟩ fuel
    else d

def shortest (x : Magnitude) : Scientific :=
  if x.significand = 0 then ⟨0, 0⟩
  else
    let i := x.interval
    (i.firstHit i.magnitudeOfTen 17).stripped 20

/-- Plain notation is for numbers from a hundred-thousandth on and below ten to the
sixteenth; `leading` is the exponent of the power of ten of the first digit. -/
def isPlain (leading : Int) : Bool :=
  -5 ≤ leading && leading < 16

def plain (ds : List Char) (leading : Int) : List Char :=
  match leading with
  | .ofNat e =>
    if ds.length ≤ e + 1 then ds ++ List.replicate (e + 1 - ds.length) '0' ++ ['.', '0']
    else ds.take (e + 1) ++ '.' :: ds.drop (e + 1)
  | .negSucc e => '0' :: '.' :: List.replicate e '0' ++ ds

def scientific (ds : List Char) (leading : Int) : List Char :=
  let mantissa := match ds with
    | [] => []
    | [d] => [d]
    | d :: more => d :: '.' :: more
  let sign := if leading < 0 then '-' else '+'
  mantissa ++ 'e' :: sign :: Text.decimal leading.natAbs

def Magnitude.render (x : Magnitude) : List Char :=
  if x.significand = 0 then ['0', '.', '0']
  else
    let d := shortest x
    let ds := Text.decimal d.digits
    let leading := d.exponent + (ds.length : Int) - 1
    if isPlain leading then plain ds leading else scientific ds leading

def Binary64.render (x : Binary64) : List Char :=
  let digits := x.magnitude.render
  if x.negative then '-' :: digits else digits

end IndexExport.Decimal
