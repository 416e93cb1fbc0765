import Issuance.Decimal.Double
/-!
Decimal digits of doubles: the fewest digits that read back to the same double, and a given
number of digits rounded from the exact value.

`Digits.mk digits point` denotes `0.digits * 10 ^ point`, without a zero in front.
-/

namespace Issuance

/-- A positive decimal number by its significant digits and the place of its point. -/
structure Digits where
  digits : List Char
  point : Int
deriving DecidableEq, Repr

namespace Digits

/-- The digits without the zeros at their end. -/
def trimZeros (d : Digits) : Digits :=
  { d with digits := (d.digits.reverse.dropWhile (· = '0')).reverse }

/-- The digits of `significand * 10 ^ exponent`. -/
def ofNat (significand : Nat) (exponent : Int) : Digits :=
  let digits := Nat.toDigits 10 significand
  ⟨digits, digits.length + exponent⟩

/-- The place `k` of the point: `10 ^ (k - 1) ≤ num / den < 10 ^ k`. A value below one is found
from the number of zeros after its point. -/
def pointOf (num den : Nat) : Int :=
  if den ≤ num then
    (Nat.toDigits 10 (num / den)).length
  else
    1 - ((List.range 400).find? fun zeros => den ≤ num * Nat.pow 10 zeros).getD 400

/-- The quotient `num / den` counted in units of `10 ^ exponent`. -/
def inUnits (num den : Nat) (exponent : Int) : Nat × Nat :=
  if exponent ≤ 0 then (num * Nat.pow 10 exponent.natAbs, den)
  else (num, den * Nat.pow 10 exponent.natAbs)

/-- The positive double `significand * 2 ^ exponent` in quarters of its last place: the numbers
that read back to it lie between `low` and `high`, the ends included if `closed`. -/
structure Interval where
  low : Nat
  value : Nat
  high : Nat
  den : Nat
  closed : Bool

/-- The interval of numbers that round to a double. Below a power of two doubles are twice as
dense. -/
def Interval.ofDouble (significand : Nat) (exponent : Int) : Interval :=
  let unit := exponent - 2
  let factor := if unit ≤ 0 then 1 else Nat.pow 2 unit.natAbs
  let den := if unit ≤ 0 then Nat.pow 2 unit.natAbs else 1
  let below := if significand = Nat.pow 2 52 ∧ Double.minExponent < exponent then 1 else 2
  { low := (4 * significand - below) * factor
    value := 4 * significand * factor
    high := (4 * significand + 2) * factor
    den := den
    closed := significand % 2 = 0 }

/-- Whether `n * 10 ^ exponent` reads back to the double of the interval. -/
def Interval.contains (i : Interval) (n : Nat) (exponent : Int) : Bool :=
  let num := if exponent ≤ 0 then n else n * Nat.pow 10 exponent.natAbs
  let scale := if exponent ≤ 0 then Nat.pow 10 exponent.natAbs else 1
  let here := num * i.den
  if i.closed then i.low * scale ≤ here && here ≤ i.high * scale
  else i.low * scale < here && here < i.high * scale

/-- The number of `count` digits that reads back to the double, the nearer of two. -/
def ofCount? (i : Interval) (point : Int) (count : Nat) : Option Digits :=
  let exponent := point - count
  let (num, den) := inUnits i.value i.den exponent
  let below := num / den
  let nearest := Double.roundQuotient num den
  let other := if nearest = below then below + 1 else below
  if 0 < nearest && i.contains nearest exponent then some (ofNat nearest exponent)
  else if 0 < other && i.contains other exponent then some (ofNat other exponent)
  else none

/-- The fewest digits that read back to the positive double `significand * 2 ^ exponent`.
Seventeen always suffice. -/
def shortest (significand : Nat) (exponent : Int) : Digits :=
  let i := Interval.ofDouble significand exponent
  let point := pointOf i.value i.den
  let counts := (List.range 17).map (· + 1)
  ((counts.findSome? (ofCount? i point)).getD ⟨['0'], 1⟩).trimZeros

/-- The `count` significant digits nearest to the positive double `significand * 2 ^ exponent`. -/
def rounded (count significand : Nat) (exponent : Int) : Digits :=
  let num := if exponent ≤ 0 then significand else significand * Nat.pow 2 exponent.natAbs
  let den := if exponent ≤ 0 then Nat.pow 2 exponent.natAbs else 1
  let point := pointOf num den
  let exponent := point - count
  let (n, d) := inUnits num den exponent
  ofNat (Double.roundQuotient n d) exponent

end Digits
end Issuance
