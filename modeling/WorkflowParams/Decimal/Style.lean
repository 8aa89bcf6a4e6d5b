import WorkflowParams.Decimal.Shortest

/-!
How a double is written: its shortest digits, positionally or with an exponent. The power of ten
of the first digit decides which.
-/

namespace WorkflowParams.Decimal

/-- The powers of ten of the first digit between which a number is written positionally. -/
structure Style where
  plainFrom : Int
  plainTo : Int
  deriving Repr

namespace Style

/-- Positional digits, at least one of them on either side of the point. -/
def plain (digits : List Char) (power : Int) : List Char :=
  if 0 ≤ power then
    let places := power.toNat + 1
    let fraction := digits.drop places
    digits.take places ++ List.replicate (places - digits.length) '0' ++ '.' ::
      (if fraction.isEmpty then ['0'] else fraction)
  else
    '0' :: '.' :: List.replicate ((-power).toNat - 1) '0' ++ digits

/-- One digit before the point, and an exponent that always has its sign. -/
def scientific (digits : List Char) (power : Int) : List Char :=
  let exponent := (if power < 0 then '-' else '+') :: Nat.toDigits 10 power.natAbs
  match digits with
  | [] => []
  | [first] => first :: 'e' :: exponent
  | first :: following => first :: '.' :: following ++ 'e' :: exponent

/-- The digits without the zeros at their end, which carry no value. -/
def significant (digits : List Char) : List Char :=
  (digits.reverse.dropWhile (· = '0')).reverse

def magnitude (style : Style) (x : Double) : List Char :=
  if x.significand = 0 then ['0', '.', '0']
  else
    let shortest := x.shortest
    let digits := Nat.toDigits 10 shortest.digits
    let power := shortest.scale + digits.length - 1
    if style.plainFrom ≤ power ∧ power ≤ style.plainTo then plain (significant digits) power
    else scientific (significant digits) power

def write (style : Style) (x : Double) : List Char :=
  if x.negative then '-' :: style.magnitude x else style.magnitude x

end Style

end WorkflowParams.Decimal
