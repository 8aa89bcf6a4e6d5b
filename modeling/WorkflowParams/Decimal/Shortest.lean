import WorkflowParams.Decimal.Double

/-!
The shortest decimal digits that are read back as the same double. The numbers that are read as a
double form an interval around it. Grids of one, two, … seventeen significant digits are tried in
turn; the first that has a point in the interval gives the digits, of two such points the nearer
one, and in a tie the even one.
-/

namespace WorkflowParams.Decimal

/-- The numbers between `low / unit` and `high / unit`, around `middle / unit`. -/
structure Neighbourhood where
  low : Nat
  middle : Nat
  high : Nat
  unit : Nat
  closed : Bool

/-- Neighbouring doubles are one unit in the last place apart, but below a power of two only half
of one. An even significand wins the ties at both ends. -/
def Double.neighbourhood (x : Double) : Neighbourhood :=
  let atPower := x.significand = 1 <<< (Double.precision - 1) ∧ Double.minExponent < x.exponent
  let stretch := 1 <<< (x.exponent - 2).toNat
  { low := (4 * x.significand - if atPower then 1 else 2) * stretch
    middle := 4 * x.significand * stretch
    high := (4 * x.significand + 2) * stretch
    unit := 1 <<< (2 - x.exponent).toNat
    closed := x.significand % 2 = 0 }

namespace Neighbourhood

/-- The power of ten at or below the middle, which is not zero. -/
def floorLog10 (r : Neighbourhood) : Int :=
  if r.unit ≤ r.middle then
    ((Nat.toDigits 10 (r.middle / r.unit)).length : Int) - 1
  else
    -((Nat.toDigits 10 ((r.unit - 1) / r.middle)).length : Int)

/-- The point nearest to the middle on the grid of the multiples of `10 ^ scale`, if the interval
has a point of the grid. -/
def onGrid? (r : Neighbourhood) (scale : Int) : Option Scaled :=
  let up := Nat.pow 10 (-scale).toNat
  let step := r.unit * Nat.pow 10 scale.toNat
  let inside (n : Nat) : Bool :=
    if r.closed then r.low * up ≤ n * step && n * step ≤ r.high * up
    else r.low * up < n * step && n * step < r.high * up
  let below := r.middle * up / step
  let nearest := roundQuotient (r.middle * up) step
  if inside nearest then some ⟨nearest, scale⟩
  else if inside below then some ⟨below, scale⟩
  else if inside (below + 1) then some ⟨below + 1, scale⟩
  else none

def shortest (r : Neighbourhood) : Scaled :=
  let top := r.floorLog10
  let grids := (List.range 17).map fun (places : Nat) => top - places
  (grids.findSome? r.onGrid?).getD ⟨0, 0⟩

end Neighbourhood

/-- The shortest digits of the magnitude of a double that is not zero. -/
def Double.shortest (x : Double) : Scaled := x.neighbourhood.shortest

end WorkflowParams.Decimal
