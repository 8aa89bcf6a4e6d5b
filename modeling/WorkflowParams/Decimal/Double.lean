import WorkflowParams.Decimal.Rounding

/-!
Finite numbers of the binary64 format, held exactly: a sign, a significand below `2 ^ 53` and a
power of two. Products and quotients of them are computed on naturals and rounded once, to the
nearest of them. A decimal numeral is read by a few such steps, each with a rounding of its own, so
what comes out is the nearest double only as long as the steps before the last one are exact.
-/

namespace WorkflowParams.Decimal

/-- The number `± significand * 2 ^ exponent`. Zero keeps its sign. -/
structure Double where
  negative : Bool
  significand : Nat
  exponent : Int
  deriving DecidableEq, Repr

/-- The number `digits * 10 ^ scale`. -/
structure Scaled where
  digits : Nat
  scale : Int
  deriving DecidableEq, Repr

namespace Double

def precision : Nat := 53

def minExponent : Int := -1074

def maxExponent : Int := 971

def zero (negative : Bool) : Double := ⟨negative, 0, minExponent⟩

/-- The power of two at or below `n / d`, for positive `n` and `d`. -/
def floorLog2 (n d : Nat) : Int :=
  let guess : Int := n.log2 - d.log2
  if d <<< guess.toNat ≤ n <<< (-guess).toNat then guess else guess - 1

/-- The power of two that the last place of the double nearest to `n / d` stands for. -/
def lastPlace (n d : Nat) : Int := max minExponent (floorLog2 n d - (precision - 1))

/-- How often the last place goes into `n / d`, to the nearest. -/
def roundedPlaces (n d : Nat) : Nat :=
  roundQuotient (n <<< (-lastPlace n d).toNat) (d <<< (lastPlace n d).toNat)

/-- A significand that rounding has made too large is the next power of two. -/
def carry (x : Double) : Double :=
  if x.significand < 1 <<< precision then x
  else { x with significand := x.significand / 2, exponent := x.exponent + 1 }

/-- The double nearest to `n / d`, or `none` if that would be beyond the largest. -/
def ofQuotient? (negative : Bool) (n d : Nat) : Option Double :=
  if n = 0 then some (zero negative)
  else
    let number := carry ⟨negative, roundedPlaces n d, lastPlace n d⟩
    if number.exponent ≤ maxExponent then some number else none

def mul? (x y : Double) : Option Double :=
  let exponent := x.exponent + y.exponent
  ofQuotient? (x.negative ^^ y.negative) ((x.significand * y.significand) <<< exponent.toNat)
    (1 <<< (-exponent).toNat)

/-- The quotient by a double that is not zero. -/
def div? (x y : Double) : Option Double :=
  let exponent := x.exponent - y.exponent
  ofQuotient? (x.negative ^^ y.negative) (x.significand <<< exponent.toNat)
    (y.significand <<< (-exponent).toNat)

/-- The largest power of ten that doubles go up to. -/
def largestPower : Nat := 308

def powerOfTen? (power : Nat) : Option Double := ofQuotient? false (Nat.pow 10 power) 1

/-- The product with a power of ten. One that is too small for a double is divided off in parts, for
as long as something is left. -/
def timesPowerOfTen? (x : Double) (scale : Int) : Option Double :=
  if scale.natAbs ≤ largestPower then
    (powerOfTen? scale.natAbs).bind fun power =>
      if 0 ≤ scale then x.mul? power else x.div? power
  else if x.significand = 0 then some x
  else if 0 ≤ scale then none
  else
    ((powerOfTen? largestPower).bind x.div?).bind fun rest =>
      rest.timesPowerOfTen? (scale + largestPower)
termination_by (-scale).toNat
decreasing_by
  simp only [largestPower] at *
  omega

/-- The double for `± n * 10 ^ scale`, or `none` if that would be beyond the largest. -/
def ofDecimal? (negative : Bool) (n : Nat) (scale : Int) : Option Double :=
  (ofQuotient? negative n 1).bind fun x => x.timesPowerOfTen? scale

end Double

end WorkflowParams.Decimal
