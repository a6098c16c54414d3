/-
# The text of a rational number

In exact arithmetic a number is shown in fixed-point notation, as the count of units that is
nearest to its magnitude, a half up, and a minus sign in front of a negative number of which
some units are left (`Exact.fixed_eq`).  So what is shown is at most half a unit away from
the number (`Exact.abs_signedValue_fixed_sub_le`), the order of numbers is that of what is
shown of them (`Exact.signedValue_fixed_mono`), and the opposite number has the other sign in
front of the same digits (`Exact.fixed_neg`).

All this holds of fewer than `2 ^ 32` places, where the scale is the power of ten of the places.
-/
import PostfixCalculator.Proofs.Number.Decimal
import PostfixCalculator.Proofs.Number.Nearest
import Mathlib.Data.Rat.Cast.Order

namespace PostfixCalculator

/-! ## 1. Units with a sign -/

/-- A count of units with the sign of `x`. -/
def withSignOf (x : ℚ) (units : ℕ) : ℚ := (if x < 0 then -1 else 1) * units

theorem withSignOf_of_neg {x : ℚ} (h : x < 0) (units : ℕ) : withSignOf x units = -units := by
  rw [withSignOf, if_pos h, neg_one_mul]

theorem withSignOf_of_nonneg {x : ℚ} (h : 0 ≤ x) (units : ℕ) : withSignOf x units = units := by
  rw [withSignOf, if_neg (not_lt.mpr h), one_mul]

theorem withSignOf_div_eq_zero_iff {x : ℚ} {places units : ℕ} :
    withSignOf x units / 10 ^ places = 0 ↔ units = 0 := by
  rw [withSignOf]
  split_ifs <;> simp

/-- **The text of a count of units with a sign denotes it**, over the scale. -/
theorem signedValue_fixedText_withSignOf (x : ℚ) (places units : ℕ) :
    Numeral.signedValue (fixedText (x < 0) (powerOfTen places) places units) =
      withSignOf x units / 10 ^ places := by
  rw [Decimal.signedValue_fixedText, withSignOf, mul_div_assoc]
  simp only [decide_eq_true_eq]

/-- **A count near the magnitude is near the number**, with its sign. -/
theorem abs_withSignOf_div_sub_le {places units : ℕ} {x : ℚ}
    (h : |(units : ℚ) - |x| * 10 ^ places| ≤ 1 / 2) :
    |withSignOf x units / 10 ^ places - x| ≤ 1 / 2 / 10 ^ places := by
  have hscale : (0 : ℚ) < 10 ^ places := by positivity
  have hdistance : |withSignOf x units / 10 ^ places - x| =
      |(units : ℚ) - |x| * 10 ^ places| / 10 ^ places := by
    rcases lt_or_ge x 0 with hneg | hpos
    · have hopposite : -(units : ℚ) / 10 ^ places - x =
          -(((units : ℚ) - -x * 10 ^ places) / 10 ^ places) := by
        field_simp
        ring
      rw [withSignOf_of_neg hneg, abs_of_neg hneg, hopposite, abs_neg, abs_div,
        abs_of_pos hscale]
    · have hsame : (units : ℚ) / 10 ^ places - x =
          ((units : ℚ) - x * 10 ^ places) / 10 ^ places := by
        field_simp
      rw [withSignOf_of_nonneg hpos, abs_of_nonneg hpos, hsame, abs_div, abs_of_pos hscale]
  rw [hdistance]
  exact div_le_div_of_nonneg_right h hscale.le

namespace Exact

variable {places : ℕ}

/-- The number of units nearest to the magnitude of `x`, a half up. -/
def nearestUnits (places : ℕ) (x : ℚ) : ℕ := ⌊|x| * 10 ^ places + 1 / 2⌋₊

theorem abs_mul_pow_eq (places : ℕ) (x : ℚ) :
    |x| * 10 ^ places = ((x.num.natAbs * powerOfTen places : ℕ) : ℚ) / x.den := by
  have habs : |x| = (x.num.natAbs : ℚ) / x.den := by
    conv_lhs => rw [← Rat.num_div_den x]
    rw [abs_div, Nat.abs_cast, Nat.cast_natAbs, Int.cast_abs]
  rw [habs, Nat.cast_mul, cast_powerOfTen, div_mul_eq_mul_div]

theorem nearestUnits_eq (places : ℕ) (x : ℚ) :
    nearestUnits places x =
      roundDiv .awayFromZero (x.num.natAbs * powerOfTen places) x.den := by
  rw [nearestUnits, abs_mul_pow_eq, roundDiv_awayFromZero_eq_floor _ x.den_pos]

/-- **The text of a rational number.** -/
theorem fixed_eq (h : places < UInt32.size) (x : ℚ) :
    fixed places x = fixedText (x < 0) (powerOfTen places) places (nearestUnits places x) := by
  rw [fixed, units, scale_of_lt h, ← nearestUnits_eq]
  simp only [Rat.num_neg]

/-! ## 2. What is shown -/

theorem signedValue_fixed (h : places < UInt32.size) (x : ℚ) :
    Numeral.signedValue (fixed places x) = withSignOf x (nearestUnits places x) / 10 ^ places := by
  rw [fixed_eq h, signedValue_fixedText_withSignOf]

theorem abs_nearestUnits_sub_le (x : ℚ) :
    |(nearestUnits places x : ℚ) - |x| * 10 ^ places| ≤ 1 / 2 := by
  rw [nearestUnits_eq, abs_mul_pow_eq]
  exact abs_roundDiv_sub_le _ _ x.den_pos

/-- **What is shown is at most half a unit away from the number.** -/
theorem abs_signedValue_fixed_sub_le (h : places < UInt32.size) (x : ℚ) :
    |Numeral.signedValue (fixed places x) - x| ≤ 1 / 2 / 10 ^ places := by
  rw [signedValue_fixed h]
  exact abs_withSignOf_div_sub_le (abs_nearestUnits_sub_le x)

theorem nearestUnits_le {x y : ℚ} (h : |x| ≤ |y|) :
    nearestUnits places x ≤ nearestUnits places y := by
  refine Nat.floor_mono ?_
  gcongr

/-- **What is shown grows with the number.** -/
theorem signedValue_fixed_mono (h : places < UInt32.size) :
    Monotone fun x : ℚ => Numeral.signedValue (fixed places x) := by
  intro x y hxy
  have hunits : withSignOf x (nearestUnits places x) ≤ withSignOf y (nearestUnits places y) := by
    rcases lt_or_ge x 0 with hx | hx
    · rw [withSignOf_of_neg hx]
      rcases lt_or_ge y 0 with hy | hy
      · rw [withSignOf_of_neg hy, neg_le_neg_iff, Nat.cast_le]
        exact nearestUnits_le (by rw [abs_of_neg hx, abs_of_neg hy]; exact neg_le_neg hxy)
      · rw [withSignOf_of_nonneg hy]
        exact (neg_nonpos.mpr (Nat.cast_nonneg _)).trans (Nat.cast_nonneg _)
    · have hy : 0 ≤ y := hx.trans hxy
      rw [withSignOf_of_nonneg hx, withSignOf_of_nonneg hy, Nat.cast_le]
      exact nearestUnits_le (by rwa [abs_of_nonneg hx, abs_of_nonneg hy])
  simp only [signedValue_fixed h]
  gcongr

theorem signedValue_fixed_eq_zero_iff (h : places < UInt32.size) (x : ℚ) :
    Numeral.signedValue (fixed places x) = 0 ↔ nearestUnits places x = 0 := by
  rw [signedValue_fixed h, withSignOf_div_eq_zero_iff]

/-- **The opposite number has the other sign** in front of the same digits, if it is not shown
as a zero, which has none. -/
theorem fixed_neg (h : places < UInt32.size) (x : ℚ) :
    fixed places (-x) =
      if nearestUnits places x = 0 then fixed places x else flipSign (fixed places x) := by
  have hunits : nearestUnits places (-x) = nearestUnits places x := by
    rw [nearestUnits, abs_neg, ← nearestUnits]
  rw [fixed_eq h, fixed_eq h, hunits]
  split_ifs with hzero
  · rw [hzero, fixedText_zero (decide (-x < 0)), fixedText_zero (decide (x < 0))]
  · -- a number that is not shown as a zero has an opposite of the other sign
    have hx : x ≠ 0 := by
      rintro rfl
      exact hzero (by norm_num [nearestUnits])
    have hsign : decide (-x < 0) = !decide (x < 0) := by
      rw [← decide_not, decide_eq_decide, neg_lt_zero, not_lt]
      exact ⟨le_of_lt, fun hle => lt_of_le_of_ne hle hx.symm⟩
    rw [Decimal.fixedText_eq, Decimal.fixedText_eq, bne_iff_ne.mpr hzero, Bool.and_true,
      Bool.and_true, Decimal.flipSign_text, Decimal.flip_ofUnits, hsign]

/-- **The text of a rational number is correctly rounded**, a half away from zero.  It is in
fixed-point notation: the digits of the whole part, a point and as many digits as places are
asked for, which write the count of units that is nearest to the magnitude, and a minus sign
just in front of a negative number that is not rounded to zero.  What is shown is therefore at
most half a unit away from the number, it grows with the number, and the text of the opposite
number differs in its sign alone unless a zero is shown. -/
theorem exact_text_correctly_rounded {places : ℕ} (h : places < 2 ^ 32) :
    (∀ x : ℚ, ∃ d : Decimal places, Number.fixed places x = d.text ∧
      Nat.ofDigitChars 10 d.whole 0 = nearestUnits places x / 10 ^ places ∧
      Nat.ofDigitChars 10 d.fraction 0 = nearestUnits places x % 10 ^ places ∧
      (d.negative = true ↔ x < 0 ∧ nearestUnits places x ≠ 0)) ∧
    (∀ x : ℚ, |Numeral.signedValue (Number.fixed places x) - x| ≤ 1 / 2 / 10 ^ places) ∧
    (Monotone fun x : ℚ => Numeral.signedValue (Number.fixed places x)) ∧
    ∀ x : ℚ, Number.fixed places (-x) =
      if Numeral.signedValue (Number.fixed places x) = 0 then Number.fixed places x
      else flipSign (Number.fixed places x) := by
  refine ⟨fun x => ?_, abs_signedValue_fixed_sub_le h, signedValue_fixed_mono h, fun x => ?_⟩
  · refine ⟨.ofUnits (x < 0 && nearestUnits places x != 0) places (nearestUnits places x), ?_,
      Decimal.ofDigitChars_whole _ _ _, Decimal.ofDigitChars_fraction _ _ _, ?_⟩
    · exact (fixed_eq h x).trans (Decimal.fixedText_eq _ _ _)
    · simp [Decimal.ofUnits]
  · have hzero := signedValue_fixed_eq_zero_iff h x
    have hneg := fixed_neg h x
    simp only [← hzero] at hneg
    exact hneg

/-- `-9.995` is shown as `-10.00`, where the carry goes into the whole part, and its opposite as
`10.00`. -/
theorem exact_text_correctly_rounded_with_carry :
    2 < 2 ^ 32 ∧ Number.fixed 2 (-1999 / 200 : ℚ) = "-10.00" ∧
      |Numeral.signedValue "-10.00" - -1999 / 200| ≤ 1 / 2 / 10 ^ 2 ∧
      Number.fixed 2 (-(-1999 / 200) : ℚ) = "10.00" := by
  have hplaces : 2 < 2 ^ 32 := by decide
  obtain ⟨-, hnear, -, hneg⟩ := exact_text_correctly_rounded hplaces
  have hshown : Number.fixed 2 (-1999 / 200 : ℚ) = "-10.00" := by decide +kernel
  have hvalue : Numeral.signedValue "-10.00" ≠ 0 := by decide +kernel
  have hnearest := hnear (-1999 / 200)
  have hopposite := hneg (-1999 / 200)
  rw [hshown] at hnearest
  rw [hshown, if_neg hvalue] at hopposite
  exact ⟨hplaces, hshown, hnearest, hopposite⟩

end Exact

end PostfixCalculator
