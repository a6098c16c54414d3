/-
# Exact arithmetic

Literals and the four operators keep their value as a rational number; a division by zero
fails.  The text of a number is its value rounded to the places asked for, a half away from
zero.

Powers of ten are computed with an exponent of 32 bits, so that a literal or a text of
`2 ^ 32` places or more is scaled by the power that the low bits give.
-/
import PostfixCalculator.Number
import PostfixCalculator.Number.Binary64

namespace PostfixCalculator.Exact

/-- The power of ten that `places` digits scale by. -/
def scale (places : Nat) : Nat := powerOfTen (places % UInt32.size)

theorem scale_of_lt {places : Nat} (h : places < UInt32.size) :
    scale places = powerOfTen places := by
  rw [scale, Nat.mod_eq_of_lt h]

theorem scale_pos (places : Nat) : 0 < scale places := powerOfTen_pos _

/-- The value of a literal. -/
def ofLiteral (l : Literal) : Rat := mkRat l.significand (scale l.places)

/-- The operators on rational numbers. -/
def apply : Operator → Rat → Rat → Except CalcError Rat
  | .plus, x, y => .ok (x + y)
  | .minus, x, y => .ok (x - y)
  | .times, x, y => .ok (x * y)
  | .divide, x, y => if y = 0 then .error .divisionByZero else .ok (x / y)

/-- Only a division fails, only by zero, and with one error. -/
theorem apply_eq_error_iff {o : Operator} {x y : Rat} {e : CalcError} :
    apply o x y = .error e ↔ o = .divide ∧ y = 0 ∧ e = .divisionByZero := by
  cases o with
  | divide =>
    rw [apply]
    split
    · rename_i hy
      simp [hy, eq_comm]
    · rename_i hy
      simp [hy]
  | plus => simp [apply]
  | minus => simp [apply]
  | times => simp [apply]

/-- The number of units nearest to the magnitude of `x`, `scale places` of which make one. -/
def units (places : Nat) (x : Rat) : Nat :=
  roundDiv .awayFromZero (x.num.natAbs * scale places) x.den

/-- The text of `x` with this many places. -/
def fixed (places : Nat) (x : Rat) : String :=
  fixedText (x.num < 0) (scale places) places (units places x)

instance : Number Rat where
  ofLiteral := ofLiteral
  zero := 0
  apply := apply
  toFloat := Binary64.ofRat
  fixed := fixed

end PostfixCalculator.Exact
