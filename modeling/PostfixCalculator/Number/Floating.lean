/-
# Binary64 arithmetic

Literals are rounded to the nearest number, ties to even, and the operators are those of
IEEE 754, so no operation fails.  The text of a number is its exact value rounded to the
places asked for, ties to even, never with an exponent.
-/
import PostfixCalculator.Number
import PostfixCalculator.Number.Binary64

namespace PostfixCalculator.Floating

/-- The number nearest to a literal. -/
def ofLiteral (l : Literal) : Float :=
  Binary64.nearest false l.significand (powerOfTen l.places)

/-- The operators of IEEE 754. -/
def apply : Operator → Float → Float → Float
  | .plus, x, y => x + y
  | .minus, x, y => x - y
  | .times, x, y => x * y
  | .divide, x, y => x / y

/-- The number of units of `10 ^ -places` nearest to `significand · 2 ^ exponent`. -/
def units (places significand : Nat) (exponent : Int) : Nat :=
  roundDiv .toEven ((significand * powerOfTen places) <<< exponent.toNat) (1 <<< (-exponent).toNat)

/-- The text of a datum with this many places. -/
def datumText (places : Nat) : Binary64.Datum → String
  | .nan => "indéfini"
  | .infinity negative => if negative then "-∞" else "∞"
  | .finite negative significand exponent =>
    fixedText negative (powerOfTen places) places (units places significand exponent)

instance : Number Float where
  ofLiteral := ofLiteral
  zero := 0
  apply o x y := .ok (apply o x y)
  toFloat := id
  fixed places x := datumText places (Binary64.datum x)

end PostfixCalculator.Floating
