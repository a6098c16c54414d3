/-
# One number shown in both arithmetics

A finite binary64 number is a rational number (`Binary64.Datum.rational?`), and it is rounded to
the same units in both arithmetics: both round the magnitude of that rational number, scaled
by the places (`Floating.units_eq`).  So the texts of the two arithmetics have one sign and can
differ in their digits only where the tie rules differ, which is halfway between two units.
There the binary64 text shows the even neighbour and the exact text the one away from zero.

In the text of a binary64 number the sign is that of its sign bit, taken away afterwards when
nothing but zeros stands behind it, while the exact text never has the sign of a zero.  The
outcome is the same (`withoutZeroSign_text`).
-/
import PostfixCalculator.Number.Floating
import PostfixCalculator.Proofs.Number.ExactText
import Mathlib.Algebra.Order.Field.Power

namespace PostfixCalculator

/-! ## 1. The sign of a zero -/

/-- The text without its minus sign if nothing but zeros and a point stands behind it. -/
def withoutZeroSign (text : String) : String :=
  match text.toList with
  | '-' :: rest =>
    if rest.all fun c => c == '0' || c == '.' then String.ofList rest else text
  | _ => text

/-- **Taking the sign of a zero away and not writing it come to the same.** -/
theorem withoutZeroSign_text (negative : Bool) (places units : ℕ) :
    withoutZeroSign (Decimal.ofUnits negative places units).text =
      fixedText negative (powerOfTen places) places units := by
  have hzeros : ((Decimal.ofUnits negative places units).magnitude.all
      fun c => c == '0' || c == '.') = decide (units = 0) := by
    rw [Bool.eq_iff_iff, List.all_eq_true, decide_eq_true_iff,
      ← Decimal.forall_mem_magnitude_ofUnits_iff negative places units]
    simp
  rw [Decimal.fixedText_eq, withoutZeroSign]
  cases negative with
  | false =>
    rw [Decimal.toList_text_of_not_negative _ rfl]
    split
    · exact absurd ‹_› (Decimal.magnitude_ne_cons_minus _ _)
    · rfl
  | true =>
    rw [Decimal.toList_text_of_negative _ rfl]
    simp only [hzeros, decide_eq_true_iff]
    split_ifs with hunits
    · rw [hunits]
      rfl
    · rw [bne_iff_ne.mpr hunits, Bool.and_true]

/-! ## 2. Binary64 numbers as rational numbers -/

/-- The rational number that a finite datum stands for. -/
def Binary64.Datum.rational? : Binary64.Datum → Option ℚ
  | .finite negative significand exponent =>
    some ((if negative then -1 else 1) * (significand * 2 ^ exponent))
  | .infinity _ => none
  | .nan => none

/-- Scaling divides by the power of two. -/
theorem Binary64.scaled_quotient (num den : ℕ) (e : ℤ) :
    ((scaled num den e).1 : ℚ) / (scaled num den e).2 = num / den / 2 ^ e := by
  cases e with
  | ofNat k =>
    simp [scaled, Nat.shiftLeft_eq]
    ring
  | negSucc k =>
    rw [scaled, Int.toNat_negSucc, Int.neg_negSucc, Int.toNat_natCast, Nat.shiftLeft_eq,
      Nat.shiftLeft_eq, zpow_negSucc, div_inv_eq_mul]
    push_cast
    ring

namespace Floating

variable {places : ℕ}

theorem quotient_eq (places significand : ℕ) (exponent : ℤ) :
    (((significand * powerOfTen places) <<< exponent.toNat : ℕ) : ℚ) /
      ((1 <<< (-exponent).toNat : ℕ) : ℚ) = significand * 2 ^ exponent * 10 ^ places := by
  have hscaled := Binary64.scaled_quotient (significand * powerOfTen places) 1 (-exponent)
  rw [Binary64.scaled, neg_neg] at hscaled
  rw [hscaled, Nat.cast_one, div_one, zpow_neg, div_inv_eq_mul, Nat.cast_mul, cast_powerOfTen]
  ring

section

variable {v : Binary64.Datum} {x : ℚ} {negative : Bool} {significand : ℕ} {exponent : ℤ}

theorem abs_of_finite (hx : (Binary64.Datum.finite negative significand exponent).rational? =
    some x) : |x| = significand * 2 ^ exponent := by
  rw [← Option.some.inj hx, abs_mul, abs_of_nonneg (by positivity : (0 : ℚ) ≤ _ * 2 ^ exponent)]
  split_ifs <;> simp

/-- **The units are those of the rational number**, rounded with ties to even. -/
theorem units_eq (hx : (Binary64.Datum.finite negative significand exponent).rational? = some x) :
    units places significand exponent =
      roundDiv .toEven (x.num.natAbs * powerOfTen places) x.den := by
  -- two fractions of one number: that of the shifts and the one in lowest terms
  refine roundDiv_congr _ (by simp [Nat.shiftLeft_eq]) x.den_pos ?_
  rw [quotient_eq, ← Exact.abs_mul_pow_eq, abs_of_finite hx]

/-- The sign bit is the sign of the number, but for a zero. -/
theorem negative_iff (hx : (Binary64.Datum.finite negative significand exponent).rational? = some x)
    (hne : x ≠ 0) : negative = decide (x < 0) := by
  have hpos : (0 : ℚ) ≤ significand * 2 ^ exponent := by positivity
  have hvalue := Option.some.inj hx
  cases negative with
  | true =>
    have hle : x ≤ 0 := by
      rw [← hvalue, if_pos rfl, neg_one_mul]
      exact neg_nonpos.mpr hpos
    exact (decide_eq_true (lt_of_le_of_ne hle hne)).symm
  | false =>
    have hge : 0 ≤ x := by rwa [← hvalue, if_neg Bool.false_ne_true, one_mul]
    exact (decide_eq_false (not_lt.mpr hge)).symm

/-- **The text of a finite number is that of the rational number it stands for**, but for the
tie rule. -/
theorem datumText_eq (hx : v.rational? = some x) (places : ℕ) :
    datumText places v = fixedText (x < 0) (powerOfTen places) places
      (roundDiv .toEven (x.num.natAbs * powerOfTen places) x.den) := by
  cases v with
  | nan => exact absurd hx nofun
  | infinity negative => exact absurd hx nofun
  | finite negative significand exponent =>
    rw [datumText, units_eq hx]
    by_cases hzero : x = 0
    · have hunits : roundDiv .toEven (x.num.natAbs * powerOfTen places) x.den = 0 := by
        simp [hzero, roundDiv]
      rw [hunits, fixedText_zero, fixedText_zero (decide (x < 0))]
    · rw [negative_iff hx hzero]

end

end Floating

/-! ## 3. Both texts -/

/-- The text shows the number `x`: it is in fixed-point notation, denotes a number at most half
a unit away, and has a minus sign if `x` is negative and not shown as a zero. -/
structure Shows (places : ℕ) (x : ℚ) (text : String) : Prop where
  decimal : ∃ d : Decimal places, text = d.text
  near : |Numeral.signedValue text - x| ≤ 1 / 2 / 10 ^ places
  negative_iff : text.toList.head? = some '-' ↔ x < 0 ∧ Numeral.signedValue text ≠ 0
  /-- Behind a minus sign there is more than zeros and a point. -/
  no_negative_zero : ∀ rest, text.toList = '-' :: rest → ∃ c ∈ rest, c ≠ '0' ∧ c ≠ '.'

/-- **The nearest units show the number**, wherever a half goes. -/
theorem shows_fixedText (tie : Tie) (places : ℕ) (x : ℚ) :
    Shows places x (fixedText (x < 0) (powerOfTen places) places
      (roundDiv tie (x.num.natAbs * powerOfTen places) x.den)) where
  decimal := ⟨_, Decimal.fixedText_eq _ _ _⟩
  near := by
    rw [signedValue_fixedText_withSignOf]
    refine abs_withSignOf_div_sub_le ?_
    rw [Exact.abs_mul_pow_eq]
    exact abs_roundDiv_sub_le tie _ x.den_pos
  negative_iff := by
    rw [signedValue_fixedText_withSignOf, Ne, withSignOf_div_eq_zero_iff, Decimal.fixedText_eq,
      Decimal.head?_text_iff]
    simp [Decimal.ofUnits]
  no_negative_zero := by
    intro rest hrest
    rw [Decimal.fixedText_eq] at hrest
    have hnegative := (Decimal.head?_text_iff _).mp (congrArg List.head? hrest)
    obtain rfl : _ = rest :=
      (List.cons.inj ((Decimal.toList_text_of_negative _ hnegative).symm.trans hrest)).2
    by_contra hzeros
    have hunits := (Decimal.forall_mem_magnitude_ofUnits_iff _ _ _).mp fun c hc => by
      by_contra hc'
      exact hzeros ⟨c, hc, not_or.mp hc'⟩
    simp [Decimal.ofUnits, hunits] at hnegative

/-! ## 4. Ties -/

/-- The magnitude of a number halfway between two whole numbers is halfway, too. -/
theorem abs_eq_of_half {y : ℚ} {k : ℤ} (h : y = k + 1 / 2) :
    (0 < y ∧ ∃ m : ℕ, k = m ∧ |y| = m + 1 / 2) ∨
      (y < 0 ∧ ∃ m : ℕ, k = -(m + 1) ∧ |y| = m + 1 / 2) := by
  cases k with
  | ofNat m =>
    rw [Int.ofNat_eq_natCast, Int.cast_natCast] at h
    have hpos : 0 < y := by
      rw [h]
      positivity
    exact Or.inl ⟨hpos, m, rfl, by rw [abs_of_pos hpos, h]⟩
  | negSucc m =>
    have hopposite : y = -(m + 1 / 2) := by
      rw [h, Int.cast_negSucc]
      push_cast
      ring
    have hneg : y < 0 := by
      rw [hopposite, neg_lt_zero]
      positivity
    exact Or.inr ⟨hneg, m, Int.negSucc_eq m, by rw [abs_of_neg hneg, hopposite, neg_neg]⟩

theorem exists_half_of_abs {y : ℚ} {m : ℕ} (h : |y| = m + 1 / 2) : ∃ k : ℤ, y = k + 1 / 2 := by
  rcases abs_choice y with habs | habs
  · exact ⟨m, by rw [← habs, h, Int.cast_natCast]⟩
  · refine ⟨-(m + 1), ?_⟩
    have hopposite : y = -(m + 1 / 2) := by rw [← h, habs, neg_neg]
    rw [hopposite]
    push_cast
    ring

theorem abs_mul_pow (x : ℚ) (places : ℕ) : |x * 10 ^ places| = |x| * 10 ^ places := by
  rw [abs_mul, abs_of_pos (by positivity : (0 : ℚ) < 10 ^ places)]

/-- **On a tie the units are those of the even neighbour** and of the one away from zero. -/
theorem withSignOf_roundDiv_of_half {x : ℚ} {places : ℕ} {k : ℤ}
    (h : x * 10 ^ places = k + 1 / 2) :
    withSignOf x (roundDiv .toEven (x.num.natAbs * powerOfTen places) x.den) =
        ((if Even k then k else k + 1 : ℤ) : ℚ) ∧
      withSignOf x (roundDiv .awayFromZero (x.num.natAbs * powerOfTen places) x.den) =
        ((if 0 < x then k + 1 else k : ℤ) : ℚ) := by
  have hscale : (0 : ℚ) < 10 ^ places := by positivity
  have habs : |x * 10 ^ places| = ((x.num.natAbs * powerOfTen places : ℕ) : ℚ) / x.den := by
    rw [abs_mul_pow, Exact.abs_mul_pow_eq]
  rcases abs_eq_of_half h with ⟨hpos, m, rfl, hm⟩ | ⟨hneg, m, rfl, hm⟩
  · have hx : 0 < x := pos_of_mul_pos_left hpos hscale.le
    rw [habs] at hm
    rw [roundDiv_toEven_of_half x.den_pos hm, roundDiv_awayFromZero_of_half x.den_pos hm,
      withSignOf_of_nonneg hx.le, withSignOf_of_nonneg hx.le, if_pos hx]
    constructor
    · simp only [Int.even_coe_nat]
      split_ifs <;> simp
    · simp
  · have hx : x < 0 := by
      by_contra hx
      exact absurd hneg (not_lt.mpr (mul_nonneg (not_lt.mp hx) hscale.le))
    rw [habs] at hm
    rw [roundDiv_toEven_of_half x.den_pos hm, roundDiv_awayFromZero_of_half x.den_pos hm,
      withSignOf_of_neg hx, withSignOf_of_neg hx, if_neg (not_lt.mpr hx.le)]
    constructor
    · simp only [even_neg, Int.even_add_one, Int.even_coe_nat]
      split_ifs <;> simp_all
    · simp

/-- **The texts of the two arithmetics differ on exact ties only.**  A finite binary64 number
and the rational number it stands for have the same text with a given number of places, unless
the number is exactly halfway between two numbers with so many places.  Then the binary64 text
denotes the one of them that ends with an even digit, and the exact text the one away from
zero.  Both texts show the number with all its places, and with a minus sign if it is negative
and not rounded to zero, but never with that of a zero; in the binary64 text the sign bit may
write one, which is taken away again. -/
theorem texts_differ_on_ties_only {v : Float} {x : ℚ} {places : ℕ}
    (hx : (Binary64.datum v).rational? = some x) (hplaces : places ≤ 65535) :
    ((∀ k : ℤ, x * 10 ^ places ≠ k + 1 / 2) → Number.fixed places v = Number.fixed places x) ∧
    (∀ k : ℤ, x * 10 ^ places = k + 1 / 2 →
      Numeral.signedValue (Number.fixed places v) =
        ((if Even k then k else k + 1 : ℤ) : ℚ) / 10 ^ places ∧
      Numeral.signedValue (Number.fixed places x) =
        ((if 0 < x then k + 1 else k : ℤ) : ℚ) / 10 ^ places) ∧
    Shows places x (Number.fixed places v) ∧ Shows places x (Number.fixed places x) ∧
    ∀ negative significand exponent,
      Binary64.datum v = .finite negative significand exponent →
        Number.fixed places v = withoutZeroSign
          (Decimal.ofUnits negative places (Floating.units places significand exponent)).text := by
  have hfloating : Number.fixed places v = fixedText (x < 0) (powerOfTen places) places
      (roundDiv .toEven (x.num.natAbs * powerOfTen places) x.den) :=
    Floating.datumText_eq hx places
  have hexact : Number.fixed places x = fixedText (x < 0) (powerOfTen places) places
      (roundDiv .awayFromZero (x.num.natAbs * powerOfTen places) x.den) := by
    have hsize : places < UInt32.size := lt_of_le_of_lt hplaces (by decide)
    exact (Exact.fixed_eq hsize x).trans (by rw [Exact.nearestUnits_eq])
  refine ⟨fun hhalf => ?_, fun k hk => ?_, ?_, ?_, fun negative significand exponent hv => ?_⟩
  · have hunits := roundDiv_eq_roundDiv .toEven .awayFromZero x.den_pos fun m hm => by
      rw [← Exact.abs_mul_pow_eq, ← abs_mul_pow] at hm
      obtain ⟨k, hk⟩ := exists_half_of_abs hm
      exact hhalf k hk
    rw [hfloating, hexact, hunits]
  · obtain ⟨heven, haway⟩ := withSignOf_roundDiv_of_half hk
    rw [hfloating, hexact, signedValue_fixedText_withSignOf, signedValue_fixedText_withSignOf,
      heven, haway]
    exact ⟨rfl, rfl⟩
  · rw [hfloating]
    exact shows_fixedText .toEven places x
  · rw [hexact]
    exact shows_fixedText .awayFromZero places x
  · rw [withoutZeroSign_text]
    exact congrArg (Floating.datumText places) hv

/-- `-2.5` is halfway between `-3` and `-2`, the even one, but not when a place is shown. -/
theorem texts_differ_on_minus_two_and_a_half :
    (Binary64.datum (Float.ofBits 0xC004000000000000)).rational? = some (-5 / 2) ∧
      (0 ≤ 65535 ∧ (-5 / 2 : ℚ) * 10 ^ 0 = (-3 : ℤ) + 1 / 2 ∧
        Numeral.signedValue (Number.fixed 0 (Float.ofBits 0xC004000000000000)) = -2 ∧
        Numeral.signedValue (Number.fixed 0 (-5 / 2 : ℚ)) = -3) ∧
      1 ≤ 65535 ∧ (∀ k : ℤ, (-5 / 2 : ℚ) * 10 ^ 1 ≠ k + 1 / 2) ∧
        Number.fixed 1 (Float.ofBits 0xC004000000000000) = Number.fixed 1 (-5 / 2 : ℚ) := by
  have hdatum : Binary64.datum (Float.ofBits 0xC004000000000000) =
      .finite true 0x14000000000000 (-51) := by decide +kernel
  have hx : (Binary64.datum (Float.ofBits 0xC004000000000000)).rational? = some (-5 / 2) := by
    rw [hdatum, Binary64.Datum.rational?]
    norm_num
  have hhalf : (-5 / 2 : ℚ) * 10 ^ 0 = (-3 : ℤ) + 1 / 2 := by norm_num
  have hnone : ∀ k : ℤ, (-5 / 2 : ℚ) * 10 ^ 1 ≠ k + 1 / 2 := by
    intro k hk
    have hdouble : ((2 * k + 1 : ℤ) : ℚ) = (-50 : ℤ) := by
      push_cast
      linarith
    have hodd : 2 * k + 1 = -50 := Int.cast_inj.mp hdouble
    omega
  obtain ⟨hfloating, hexact⟩ := (texts_differ_on_ties_only hx (by decide)).2.1 (-3) hhalf
  refine ⟨hx, ⟨by decide, hhalf, hfloating.trans ?_, hexact.trans ?_⟩, by decide, hnone,
    (texts_differ_on_ties_only hx (by decide)).1 hnone⟩
  · rw [if_neg (by decide)]
    norm_num
  · rw [if_neg (by norm_num)]
    norm_num

end PostfixCalculator
