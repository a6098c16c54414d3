/-
# Binary64

What the bits of a floating-point number mean, and the number nearest to a quotient.

A finite number is `± significand · 2 ^ exponent`.  The exponent field holds `exponent + 1075`
of a normal number, whose significand lies between `2 ^ 52` and `2 ^ 53`, and zero for the
smallest exponent, `-1074`, with a significand below `2 ^ 52`.

Conversely, a positive quotient is scaled by the power of two that leaves 53 bits before the
point, fewer when that power would be below the smallest one, and rounded to the nearest whole
number, ties to even.  The bits are then the sum `(exponent + 1074) · 2 ^ 52 + significand`:
the leading bit of a significand carries into the exponent field, where it makes the number
normal, and so does the carry of a rounding up to `2 ^ 53`.  Past the largest finite number
the bits are those of infinity.
-/
import PostfixCalculator.Number.Rounding

namespace PostfixCalculator.Binary64

/-! ## 1. From bits -/

/-- What a floating-point number stands for. -/
inductive Datum where
  | nan
  | infinity (negative : Bool)
  /-- The number `± significand · 2 ^ exponent`, zeros with their sign. -/
  | finite (negative : Bool) (significand : Nat) (exponent : Int)
deriving DecidableEq

/-- The bit above the fraction, `2 ^ 52`: the leading bit of a normal significand, and the
lowest one of the exponent field. -/
def leadingBit : Nat := 0x10000000000000

/-- The highest bit, `2 ^ 63`, set in negative numbers. -/
def signBit : Nat := 0x8000000000000000

/-- The exponent field of infinities and NaN. -/
def specialField : Nat := 0x7FF

/-- The reading of 64 bits. -/
def Datum.ofBits (bits : Nat) : Datum :=
  let negative := bits / signBit % 2 == 1
  let field : Nat := bits / leadingBit % (specialField + 1)
  let fraction := bits % leadingBit
  if field = specialField then if fraction = 0 then .infinity negative else .nan
  else if field = 0 then .finite negative fraction (-1074)
  else .finite negative (leadingBit + fraction) (field - 1075)

/-- What `x` stands for. -/
def datum (x : Float) : Datum := .ofBits x.toBits.toNat

/-! ## 2. The nearest number to a quotient -/

/-- The bits of positive infinity. -/
def infinityBits : Nat := specialField * leadingBit

/-- The quotient `num / den` divided by `2 ^ e`, as a numerator and a denominator. -/
def scaled (num den : Nat) (e : Int) : Nat × Nat :=
  (num <<< (-e).toNat, den <<< e.toNat)

/-- The largest `k` with `2 ^ k ≤ num / den`, for a positive quotient. -/
def floorLog2 (num den : Nat) : Int :=
  let k : Int := (num.log2 : Int) - den.log2
  let (n, d) := scaled num den k
  if d ≤ n then k else k - 1

/-- The exponent of the unit that `num / den` is rounded to. -/
def unitExponent (num den : Nat) : Int := max (floorLog2 num den - 52) (-1074)

/-- The bits of the number nearest to `num / den`, ties to even. -/
def magnitudeBits (num den : Nat) : Nat :=
  if num = 0 then 0
  else
    let e := unitExponent num den
    let (n, d) := scaled num den e
    min ((e + 1074).toNat * leadingBit + roundDiv .toEven n d) infinityBits

/-- The number nearest to `± num / den`. -/
def nearest (negative : Bool) (num den : Nat) : Float :=
  Float.ofBits (UInt64.ofNat ((if negative then signBit else 0) + magnitudeBits num den))

/-- The number nearest to a rational.  Zero is positive zero; a negative rational too small
for binary64 is negative zero. -/
def ofRat (r : Rat) : Float := nearest (r.num < 0) r.num.natAbs r.den

theorem magnitudeBits_zero (den : Nat) : magnitudeBits 0 den = 0 := rfl

theorem magnitudeBits_le (num den : Nat) : magnitudeBits num den ≤ infinityBits := by
  unfold magnitudeBits
  split
  · exact Nat.zero_le _
  · exact Nat.min_le_right _ _

end PostfixCalculator.Binary64
