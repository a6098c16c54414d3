/-
# Fixed-point text read back

The text of a count of units, without a sign, is a literal: the whole part before the point,
and behind it as many digits as there are places, for the rest of a division by the scale has
no more (`Literal.ofText?_fixedText`).  Put together again, the two parts are the count
(`Literal.significand_ofUnits`).

In exact arithmetic the literal is the count over the scale (`Exact.ofText_fixedText`).  That
number needs no rounding, so that its own text is the one it was read from
(`Exact.fixed_mkRat`, and `Exact.fixed_neg_mkRat` behind a minus sign).  All this is said of
fewer than `2 ^ 32` places, where the scale is the power of ten of the places.
-/
import PostfixCalculator.Number.Exact
import PostfixCalculator.Proofs.Number.Nearest

namespace PostfixCalculator

/-! ## 1. The text -/

/-- The digits behind the point. -/
def fractionDigits (places rest : Nat) : List Char :=
  if places = 0 then [] else (Nat.toDigits 10 rest).leftpad places '0'

theorem fractionText_eq (places rest : Nat) :
    (places = 0 ∧ fractionText places rest = [] ∧ fractionDigits places rest = []) ∨
      fractionText places rest = '.' :: fractionDigits places rest := by
  rw [fractionText, fractionDigits]
  split
  · exact Or.inl ⟨‹_›, rfl, rfl⟩
  · exact Or.inr rfl

/-- The rest of a division by the scale has no more digits than there are places. -/
theorem length_fractionDigits {places rest : Nat} (h : rest < powerOfTen places) :
    (fractionDigits places rest).length = places := by
  rw [fractionDigits]
  split_ifs with hplaces
  · rw [hplaces, List.length_nil]
  · have hlength : (Nat.toDigits 10 rest).length ≤ places :=
      (Nat.length_toDigits_le_iff (by decide) (Nat.pos_of_ne_zero hplaces)).mpr h
    rw [List.length_leftpad, Nat.max_eq_left hlength]

/-- Zeros in front are of no account. -/
theorem ofDigitChars_fractionDigits {places rest : Nat} (h : rest < powerOfTen places) :
    Nat.ofDigitChars 10 (fractionDigits places rest) 0 = rest := by
  rw [fractionDigits]
  split_ifs with hplaces
  · rw [hplaces] at h
    exact (Nat.lt_one_iff.mp h).symm
  · rw [List.leftpad, Nat.ofDigitChars_append, Nat.ofDigitChars_replicate_zero, Nat.mul_zero,
      Nat.ofDigitChars_ten_toDigits]

theorem isDigit_of_mem_zeros {n : Nat} : ∀ c ∈ List.replicate n '0', c.isDigit = true := by
  intro c hc
  rw [List.eq_of_mem_replicate hc]
  rfl

theorem isDigit_of_mem_fractionDigits {places rest : Nat} :
    ∀ c ∈ fractionDigits places rest, c.isDigit = true := by
  rw [fractionDigits]
  split
  · exact List.forall_mem_nil _
  · rw [List.leftpad]
    exact List.forall_mem_append.mpr ⟨isDigit_of_mem_zeros,
      fun c hc => Nat.isDigit_of_mem_toDigits (by decide) (by decide) hc⟩

theorem toList_fixedText (scale places units : Nat) :
    (fixedText false scale places units).toList =
      Nat.toDigits 10 (units / scale) ++ fractionText places (units % scale) := by
  rw [fixedText, String.toList_ofList, signText, Bool.false_and, if_neg Bool.false_ne_true,
    List.nil_append]

/-- Whole parts and a rest are divided apart again. -/
theorem mul_add_div_mod {scale rest : Nat} (whole : Nat) (h : rest < scale) :
    (scale * whole + rest) / scale = whole ∧ (scale * whole + rest) % scale = rest :=
  (Nat.div_mod_unique (Nat.zero_lt_of_lt h)).mpr ⟨Nat.add_comm _ _, h⟩

/-- A negative number of some units has a minus sign. -/
theorem fixedText_true {units : Nat} (h : units ≠ 0) (scale places : Nat) :
    fixedText true scale places units = "-" ++ fixedText false scale places units := by
  have hsign : signText true units = ['-'] := by simp [signText, h]
  refine String.toList_inj.mp ?_
  rw [String.toList_append, toList_fixedText, fixedText, String.toList_ofList, hsign,
    List.append_assoc]
  rfl

/-! ## 2. The literal -/

namespace Literal

/-- The literal that writes a count of units. -/
def ofUnits (places units : Nat) : Literal :=
  ⟨Nat.toDigits 10 (units / powerOfTen places), fractionDigits places (units % powerOfTen places)⟩

/-- **The text of a count is its literal.** -/
theorem ofText?_fixedText (places units : Nat) :
    ofText? (fixedText false (powerOfTen places) places units) = some (ofUnits places units) := by
  have hwhole : ∀ c ∈ Nat.toDigits 10 (units / powerOfTen places), c.isDigit = true :=
    fun c hc => Nat.isDigit_of_mem_toDigits (by decide) (by decide) hc
  have hrest : ∀ c ∈ fractionDigits places (units % powerOfTen places), c.isDigit = true :=
    isDigit_of_mem_fractionDigits
  rw [ofText?, toList_fixedText]
  simp only [List.takeWhile_append_of_pos hwhole, List.dropWhile_append_of_pos hwhole, ofUnits]
  rcases fractionText_eq places (units % powerOfTen places) with ⟨-, htext, hnone⟩ | htext
  · simp [htext, hnone]
  · simpa [htext] using hrest

theorem places_ofUnits (places units : Nat) : (ofUnits places units).places = places :=
  length_fractionDigits (Nat.mod_lt _ (powerOfTen_pos places))

/-- **The digits of the literal are the count.** -/
theorem significand_ofUnits (places units : Nat) : (ofUnits places units).significand = units := by
  have hrest : units % powerOfTen places < powerOfTen places :=
    Nat.mod_lt _ (powerOfTen_pos places)
  rw [significand, ofUnits, Nat.ofDigitChars_append, Nat.ofDigitChars_ten_toDigits,
    Nat.ofDigitChars_eq_ofDigitChars_zero, ofDigitChars_fractionDigits hrest,
    length_fractionDigits hrest]
  exact Nat.div_add_mod units (powerOfTen places)

end Literal

/-! ## 3. Exact arithmetic -/

namespace Exact

variable {places : Nat}

theorem ofText_fixedText (h : places < UInt32.size) (units : Nat) :
    (Number.ofText (fixedText false (powerOfTen places) places units) : Except CalcError ℚ) =
      .ok (mkRat units (powerOfTen places)) := by
  have hvalue : ofLiteral (Literal.ofUnits places units) = mkRat units (powerOfTen places) := by
    rw [ofLiteral, Literal.significand_ofUnits, Literal.places_ofUnits, scale_of_lt h]
  rw [Number.ofText, Literal.ofText?_fixedText, ← hvalue]
  rfl

theorem units_neg (x : ℚ) : units places (-x) = units places x := by
  rw [units, units, Rat.neg_num, Int.natAbs_neg, Rat.neg_den]

/-- The units are those of the quotient, in lowest terms or not. -/
theorem units_mkRat_eq (places n : Nat) {den : Nat} (h : 0 < den) :
    units places (mkRat n den) = roundDiv .awayFromZero (n * scale places) den := by
  have hnum : 0 ≤ (mkRat n den).num :=
    Rat.num_nonneg.mpr (Rat.mkRat_nonneg (Int.natCast_nonneg n) _)
  have hvalue : ((mkRat n den).num.natAbs : ℚ) / (mkRat n den).den = n / den := by
    rw [Nat.cast_natAbs, abs_of_nonneg hnum, Rat.num_div_den, Rat.mkRat_eq_div, Int.cast_natCast]
  refine roundDiv_congr _ (Rat.den_pos _) h ?_
  rw [Nat.cast_mul, Nat.cast_mul, mul_div_right_comm, hvalue, mul_div_right_comm]

theorem fixed_mkRat_eq (places n : Nat) {den : Nat} (h : 0 < den) :
    fixed places (mkRat n den) = fixedText false (scale places) places
      (roundDiv .awayFromZero (n * scale places) den) := by
  have hsign : ¬ (mkRat n den).num < 0 :=
    not_lt.mpr (Rat.num_nonneg.mpr (Rat.mkRat_nonneg (Int.natCast_nonneg n) _))
  rw [fixed, units_mkRat_eq places n h, decide_eq_false hsign]

/-- **A number of whole units is not rounded.** -/
theorem units_mkRat (h : places < UInt32.size) (n : Nat) :
    units places (mkRat n (powerOfTen places)) = n := by
  rw [units_mkRat_eq places n (powerOfTen_pos places), scale_of_lt h]
  exact roundDiv_mul_left _ n (powerOfTen_pos places)

theorem fixed_mkRat (h : places < UInt32.size) (n : Nat) :
    fixed places (mkRat n (powerOfTen places)) = fixedText false (powerOfTen places) places n := by
  rw [fixed_mkRat_eq places n (powerOfTen_pos places), scale_of_lt h,
    roundDiv_mul_left _ n (powerOfTen_pos places)]

theorem fixed_neg_mkRat (h : places < UInt32.size) {n : Nat} (hn : n ≠ 0) :
    fixed places (-mkRat n (powerOfTen places)) =
      "-" ++ fixedText false (powerOfTen places) places n := by
  have hscale : powerOfTen places ≠ 0 := Nat.ne_of_gt (powerOfTen_pos places)
  have hpos : 0 < mkRat n (powerOfTen places) :=
    Rat.mkRat_pos (Int.natCast_pos.mpr (Nat.pos_of_ne_zero hn)) hscale
  have hsign : (-mkRat n (powerOfTen places)).num < 0 := by
    rw [Rat.neg_num]
    exact Int.neg_neg_of_pos (Rat.num_pos.mpr hpos)
  rw [fixed, scale_of_lt h, units_neg, units_mkRat h, decide_eq_true hsign, fixedText_true hn]

end Exact

end PostfixCalculator
