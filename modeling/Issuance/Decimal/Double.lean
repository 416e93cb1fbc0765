/-!
Double-precision numbers as exact values.

A finite double is a sign, a significand and a power of two. Every operation computes its exact
result in integers and rounds once, to the nearest double, a tie going to the even significand;
so the operations can be reasoned about in integer arithmetic alone.
-/

namespace Issuance

/-- A double: `finite negative significand exponent` is `± significand * 2 ^ exponent`. -/
inductive Double
  | nan
  | infinite (negative : Bool)
  | finite (negative : Bool) (significand : Nat) (exponent : Int)
deriving DecidableEq, Repr, Inhabited

namespace Double

def minExponent : Int := -1074

def maxExponent : Int := 971

def zero (negative : Bool) : Double := .finite negative 0 minExponent

/-- The nearest integer to `num / den`, a half going to the even neighbour. -/
def roundQuotient (num den : Nat) : Nat :=
  let quotient := num / den
  let twice := 2 * (num % den)
  if twice < den then quotient
  else if twice > den then quotient + 1
  else if quotient % 2 = 0 then quotient else quotient + 1

/-- The numerator and the denominator of `num / den * 2 ^ (-exponent)`. -/
def scaled (num den : Nat) (exponent : Int) : Nat × Nat :=
  if exponent ≤ 0 then (num * Nat.pow 2 exponent.natAbs, den)
  else (num, den * Nat.pow 2 exponent.natAbs)

/-- The exponent that leaves 53 significant bits before the point, if there is room for them. -/
def fittingExponent (num den : Nat) : Int :=
  let guess : Int := (num.log2 : Int) - (den.log2 : Int) - 52
  let (n, d) := scaled num den guess
  max minExponent (if n / d < Nat.pow 2 52 then guess - 1 else guess)

/-- The double nearest to `± num / den`. -/
def ofQuotient (negative : Bool) (num den : Nat) : Double :=
  if num = 0 then zero negative
  else
    let exponent := fittingExponent num den
    let (n, d) := scaled num den exponent
    let significand := roundQuotient n d
    let (significand, exponent) :=
      if significand = Nat.pow 2 53 then (Nat.pow 2 52, exponent + 1) else (significand, exponent)
    if maxExponent < exponent then .infinite negative else .finite negative significand exponent

/-- The double nearest to `± significand * 2 ^ exponent`. -/
def ofBinary (negative : Bool) (significand : Nat) (exponent : Int) : Double :=
  if exponent ≤ 0 then ofQuotient negative significand (Nat.pow 2 exponent.natAbs)
  else ofQuotient negative (significand * Nat.pow 2 exponent.natAbs) 1

/-- The double nearest to `± digits * 10 ^ exponent`. Far outside the range of doubles the
answer needs no arithmetic. -/
def ofDecimal (negative : Bool) (digits : Nat) (exponent : Int) : Double :=
  let magnitude := ((Nat.toDigits 10 digits).length : Int) + exponent
  if digits = 0 || magnitude < -400 then zero negative
  else if 400 < magnitude then .infinite negative
  else if exponent ≤ 0 then ofQuotient negative digits (Nat.pow 10 exponent.natAbs)
  else ofQuotient negative (digits * Nat.pow 10 exponent.natAbs) 1

/-- The double nearest to an integer, if the integer is within the range of doubles. -/
def ofInt? (n : Int) : Option Double :=
  match ofQuotient (n < 0) n.natAbs 1 with
  | .infinite _ => none
  | x => some x

/-- Neither infinite nor undefined. -/
def isFinite : Double → Bool
  | .finite .. => true
  | _ => false

/-- Greater than zero. Undefined is not. -/
def isPositive : Double → Bool
  | .nan => false
  | .infinite negative => !negative
  | .finite negative significand _ => !negative && significand != 0

/-- At most zero. Undefined is not. -/
def isNonpositive : Double → Bool
  | .nan => false
  | .infinite negative => negative
  | .finite negative significand _ => negative || significand == 0

/-- Equal to zero, with either sign. -/
def isZero : Double → Bool
  | .finite _ significand _ => significand == 0
  | _ => false

def signed (negative : Bool) (n : Nat) : Int := if negative then -(n : Int) else n

def add : Double → Double → Double
  | .nan, _ => .nan
  | _, .nan => .nan
  | .infinite a, .infinite b => if a = b then .infinite a else .nan
  | .infinite a, _ => .infinite a
  | _, .infinite b => .infinite b
  | .finite a m e, .finite b n f =>
    let low := min e f
    let sum := signed a (m * Nat.pow 2 (e - low).toNat) + signed b (n * Nat.pow 2 (f - low).toNat)
    if sum = 0 then zero (a && b) else ofBinary (sum < 0) sum.natAbs low

def neg : Double → Double
  | .nan => .nan
  | .infinite negative => .infinite !negative
  | .finite negative m e => .finite (!negative) m e

def sub (x y : Double) : Double := x.add y.neg

def isNegative : Double → Bool
  | .nan => false
  | .infinite negative => negative
  | .finite negative _ _ => negative

def mul : Double → Double → Double
  | .nan, _ => .nan
  | _, .nan => .nan
  | .infinite a, y => if y.isZero then .nan else .infinite (a != y.isNegative)
  | x, .infinite b => if x.isZero then .nan else .infinite (x.isNegative != b)
  | .finite a m e, .finite b n f => ofBinary (a != b) (m * n) (e + f)

def half (x : Double) : Double := x.mul (.finite false 1 (-1))

/-- Why a double has no nearest integer. -/
inductive NotIntegral
  | undefined
  | unbounded
deriving DecidableEq, Repr

/-- The integer nearest to a double, a half going to the even neighbour. -/
def round : Double → Except NotIntegral Int
  | .nan => .error .undefined
  | .infinite _ => .error .unbounded
  | .finite negative m e =>
    let n := if e ≤ 0 then roundQuotient m (Nat.pow 2 e.natAbs) else m * Nat.pow 2 e.natAbs
    .ok (signed negative n)

def truncate : Double → Except NotIntegral Int
  | .nan => .error .undefined
  | .infinite _ => .error .unbounded
  | .finite negative m e =>
    let n := if e ≤ 0 then m / Nat.pow 2 e.natAbs else m * Nat.pow 2 e.natAbs
    .ok (signed negative n)

end Double
end Issuance
