/-
# A numeral shown with its own places

A numeral that is read in exact arithmetic and shown with its own places, or with more, should
come out as it went in, but for zeros in front that could be left out and zeros at the end for
the places that are missing (`Decimal.ofNumeral`).  A number has one notation with a given
number of places (`Decimal.magnitude_eq_iff`), so that it is enough to compare the parts
before and behind the point.

With fewer than `2 ^ 32` places this is so.  Beyond, the powers of ten are those that the low
32 bits say: the digits of the numeral are read as parts of which a power too small makes one,
and shown as units of which again a power too small makes one.  The whole part is kept if its
point was read where it was written, and the fraction if as many places are missing in showing
as in reading, and those that are left hold it (`Exact.parts_kept_iff`).  A part that is zero
is kept in any case.  All other numerals come out as another number, or with their digits in
other places (`Numeral.fixed_eq_iff`).
-/
import PostfixCalculator.Proofs.Number.ExactText
import Mathlib

namespace PostfixCalculator

/-! ## 1. A numeral with more places -/

/-- Digits without the zeros in front of them, but for one that nothing follows. -/
def withoutLeadingZeros (digits : List Char) : List Char :=
  let rest := digits.dropWhile (· == '0')
  if rest.isEmpty then ['0'] else rest

theorem withoutLeadingZeros_cases (digits : List Char) :
    (withoutLeadingZeros digits = ['0'] ∧ digits.dropWhile (· == '0') = []) ∨
      (withoutLeadingZeros digits = digits.dropWhile (· == '0') ∧
        digits.dropWhile (· == '0') ≠ []) := by
  rw [withoutLeadingZeros]
  split_ifs with hrest
  · exact Or.inl ⟨rfl, List.isEmpty_iff.mp hrest⟩
  · exact Or.inr ⟨rfl, fun h => hrest (List.isEmpty_iff.mpr h)⟩

/-- Zeros in front are of no account. -/
theorem ofDigitChars_withoutLeadingZeros (digits : List Char) :
    Nat.ofDigitChars 10 (withoutLeadingZeros digits) 0 = Nat.ofDigitChars 10 digits 0 := by
  have hzeros : digits.takeWhile (· == '0') =
      List.replicate (digits.takeWhile (· == '0')).length '0' :=
    List.eq_replicate_iff.mpr ⟨rfl, fun c hc =>
      beq_iff_eq.mp (List.all_eq_true.mp List.all_takeWhile c hc)⟩
  have hrest : Nat.ofDigitChars 10 (digits.dropWhile (· == '0')) 0 =
      Nat.ofDigitChars 10 digits 0 := by
    conv_rhs => rw [← List.takeWhile_append_dropWhile (p := (· == '0')) (l := digits)]
    rw [Nat.ofDigitChars_append, hzeros, Nat.ofDigitChars_replicate_zero, Nat.mul_zero]
  rw [← hrest]
  rcases withoutLeadingZeros_cases digits with ⟨h, hnone⟩ | ⟨h, -⟩
  · rw [h, hnone]
    rfl
  · rw [h]

namespace Decimal

variable {text : String} {places : ℕ}

/-- The notation of a numeral with at least its own places: without zeros in front that could
be left out, and with zeros at the end for the places that are missing. -/
def ofNumeral (h : IsNumeral text)
    (hplaces : (Numeral.fraction text).length ≤ places) : Decimal places where
  negative := false
  whole := withoutLeadingZeros (Numeral.whole text)
  fraction := (Numeral.fraction text).rightpad places '0'
  isDigit_whole := by
    rcases withoutLeadingZeros_cases (Numeral.whole text) with ⟨hwhole, -⟩ | ⟨hwhole, -⟩
    · rw [hwhole]
      exact List.forall_mem_singleton.mpr rfl
    · rw [hwhole]
      exact fun c hc => Numeral.isDigit_of_mem_whole h c (List.dropWhile_subset _ hc)
  whole_ne_nil := by
    rcases withoutLeadingZeros_cases (Numeral.whole text) with ⟨hwhole, -⟩ | ⟨hwhole, hne⟩
    · rw [hwhole]
      exact List.cons_ne_nil _ _
    · rwa [hwhole]
  whole_eq_zero := by
    rcases withoutLeadingZeros_cases (Numeral.whole text) with ⟨hwhole, -⟩ | ⟨hwhole, hne⟩
    · exact fun _ => hwhole
    · intro hhead
      have hfirst := List.head?_dropWhile_not (· == '0') (Numeral.whole text)
      rw [← hwhole, hhead] at hfirst
      exact absurd hfirst (by decide)
  isDigit_fraction := by
    rw [List.rightpad]
    exact List.forall_mem_append.mpr ⟨Numeral.isDigit_of_mem_fraction h, isDigit_of_mem_zeros⟩
  length_fraction := by
    rw [List.rightpad, List.length_append, List.length_replicate]
    omega

theorem ofDigitChars_whole_ofNumeral (h : IsNumeral text)
    (hplaces : (Numeral.fraction text).length ≤ places) :
    Nat.ofDigitChars 10 (ofNumeral h hplaces).whole 0 =
      Nat.ofDigitChars 10 (Numeral.whole text) 0 :=
  ofDigitChars_withoutLeadingZeros _

theorem ofDigitChars_fraction_ofNumeral (h : IsNumeral text)
    (hplaces : (Numeral.fraction text).length ≤ places) :
    Nat.ofDigitChars 10 (ofNumeral h hplaces).fraction 0 =
      10 ^ (places - (Numeral.fraction text).length) *
        Nat.ofDigitChars 10 (Numeral.fraction text) 0 :=
  (Nat.ofDigitChars_append 0).trans Nat.ofDigitChars_replicate_zero

end Decimal

/-! ## 2. Scaling with other powers of ten -/

theorem ten_mul_pow_le {m n : ℕ} (h : m < n) : 10 * 10 ^ m ≤ 10 ^ n := by
  rw [← Nat.pow_succ']
  exact Nat.pow_le_pow_right (by decide) h

namespace Exact

/-! The numeral has `f` places of which `j` are read, and `n` are asked for of which `k` are
shown.  Its parts are the numbers `whole` and `rest`, and it is rounded to `units`. -/

section

variable {whole rest f n k j units : ℕ}

theorem pow_mul_eq (h : j = f ∨ whole = 0) : 10 ^ f * whole = 10 ^ j * whole := by
  rcases h with rfl | rfl
  · rfl
  · rw [Nat.mul_zero, Nat.mul_zero]

/-- If as many places are missing in showing as in reading, nothing is rounded. -/
theorem units_of_kept
    (hunits : units = roundDiv .awayFromZero ((10 ^ f * whole + rest) * 10 ^ k) (10 ^ j))
    (hfn : f ≤ n) (hwhole : j = f ∨ whole = 0) (hrest : n + j = f + k ∨ rest = 0) :
    units = 10 ^ k * whole + 10 ^ (n - f) * rest := by
  have hnum : rest * 10 ^ k = 10 ^ (n - f) * rest * 10 ^ j := by
    rcases hrest with hsame | rfl
    · obtain rfl : k = n - f + j := by omega
      rw [Nat.pow_add]
      ring
    · rw [Nat.zero_mul, Nat.mul_zero, Nat.zero_mul]
  have hproduct : (10 ^ f * whole + rest) * 10 ^ k =
      (10 ^ k * whole + 10 ^ (n - f) * rest) * 10 ^ j := by
    rw [pow_mul_eq hwhole, Nat.add_mul, Nat.add_mul, hnum]
    ring
  rw [hunits, hproduct, roundDiv_mul_left _ _ (Nat.pow_pos (by decide))]

/-- A whole part becomes larger if its point is read too far behind. -/
theorem whole_eq_zero_of_lt
    (hunits : units = roundDiv .awayFromZero ((10 ^ f * whole + rest) * 10 ^ k) (10 ^ j))
    (hquotient : units / 10 ^ k = whole) (hjf : j < f) : whole = 0 := by
  by_contra hne
  have hr : 0 < 10 ^ j := Nat.pow_pos (by decide)
  have hnear := two_mul_le_roundDiv_mul .awayFromZero ((10 ^ f * whole + rest) * 10 ^ k) hr
  rw [← hunits] at hnear
  have hlow : 10 * (10 ^ j * (whole * 10 ^ k)) ≤ (10 ^ f * whole + rest) * 10 ^ k :=
    calc 10 * (10 ^ j * (whole * 10 ^ k)) = 10 * 10 ^ j * whole * 10 ^ k := by ring
      _ ≤ 10 ^ f * whole * 10 ^ k :=
          Nat.mul_le_mul_right _ (Nat.mul_le_mul_right _ (ten_mul_pow_le hjf))
      _ ≤ (10 ^ f * whole + rest) * 10 ^ k := Nat.mul_le_mul_right _ (Nat.le_add_right _ _)
  have hhigh : (units + 1) * 10 ^ j ≤ 2 * (10 ^ j * (whole * 10 ^ k)) :=
    calc (units + 1) * 10 ^ j ≤ 10 ^ k * (units / 10 ^ k + 1) * 10 ^ j :=
          Nat.mul_le_mul_right _ (Nat.lt_mul_div_succ units (Nat.pow_pos (by decide)))
      _ ≤ 10 ^ k * (2 * whole) * 10 ^ j := by
          rw [hquotient]
          exact Nat.mul_le_mul_right _ (Nat.mul_le_mul_left _ (by omega))
      _ = 2 * (10 ^ j * (whole * 10 ^ k)) := by ring
  rw [Nat.add_one_mul] at hhigh
  omega

/-- A fraction becomes smaller if more places are missing in showing than in reading. -/
theorem rest_eq_zero_of_lt
    (hunits : units = roundDiv .awayFromZero ((10 ^ f * whole + rest) * 10 ^ k) (10 ^ j))
    (hsum : units = 10 ^ k * whole + 10 ^ (n - f) * rest) (hwhole : j = f ∨ whole = 0)
    (hlt : f + k < n + j) (hfn : f ≤ n) : rest = 0 := by
  by_contra hne
  have hr : 0 < 10 ^ j := Nat.pow_pos (by decide)
  have hnear := two_mul_roundDiv_mul_le .awayFromZero ((10 ^ f * whole + rest) * 10 ^ k) (10 ^ j)
  -- the whole part counts the same on both sides
  have hcommon : (10 ^ k * whole + 10 ^ (n - f) * rest) * 10 ^ j =
      10 ^ j * whole * 10 ^ k + 10 ^ (n - f) * rest * 10 ^ j := by ring
  rw [← hunits, hsum, pow_mul_eq hwhole, hcommon, Nat.add_mul] at hnear
  have hlarge : 10 * (rest * 10 ^ k) ≤ 10 ^ (n - f) * rest * 10 ^ j :=
    calc 10 * (rest * 10 ^ k) = rest * (10 * 10 ^ k) := by ring
      _ ≤ rest * 10 ^ (n - f + j) := Nat.mul_le_mul_left _ (ten_mul_pow_le (by omega))
      _ = 10 ^ (n - f) * rest * 10 ^ j := by
          rw [Nat.pow_add]
          ring
  have hone : 10 ^ j ≤ 10 ^ (n - f) * rest * 10 ^ j :=
    Nat.le_mul_of_pos_left _
      (Nat.mul_pos (Nat.pow_pos (by decide)) (Nat.pos_of_ne_zero hne))
  omega

/-- **Both parts are kept** just if the point is read where it was written, as many places are
missing in showing as in reading, and the places left hold the fraction, except that the
conditions on a part that is zero are void. -/
theorem parts_kept_iff
    (hunits : units = roundDiv .awayFromZero ((10 ^ f * whole + rest) * 10 ^ k) (10 ^ j))
    (hfn : f ≤ n) (hjf : j ≤ f) (hle : f + k ≤ n + j) :
    (units / 10 ^ k = whole ∧ units % 10 ^ k = 10 ^ (n - f) * rest) ↔
      (j = f ∨ whole = 0) ∧ (n + j = f + k ∧ rest < 10 ^ j ∨ rest = 0) := by
  have hsplit : n + j = f + k → 10 ^ k = 10 ^ (n - f) * 10 ^ j := by
    intro hsame
    rw [← Nat.pow_add]
    congr 1
    omega
  constructor
  · rintro ⟨hquotient, hremainder⟩
    have hwhole : j = f ∨ whole = 0 :=
      (Nat.eq_or_lt_of_le hjf).imp_right (whole_eq_zero_of_lt hunits hquotient)
    have hsum : units = 10 ^ k * whole + 10 ^ (n - f) * rest := by
      rw [← hremainder, ← hquotient, Nat.div_add_mod]
    refine ⟨hwhole, ?_⟩
    rcases Nat.eq_or_lt_of_le hle with hsame | hlt
    · refine Or.inl ⟨hsame.symm, ?_⟩
      have hbound : 10 ^ (n - f) * rest < 10 ^ k := by
        rw [← hremainder]
        exact Nat.mod_lt _ (Nat.pow_pos (by decide))
      rw [hsplit hsame.symm] at hbound
      exact Nat.lt_of_mul_lt_mul_left hbound
    · exact Or.inr (rest_eq_zero_of_lt hunits hsum hwhole hlt hfn)
  · rintro ⟨hwhole, hrest⟩
    have hsum := units_of_kept hunits hfn hwhole (hrest.imp_left And.left)
    have hbound : 10 ^ (n - f) * rest < 10 ^ k := by
      rcases hrest with ⟨hsame, hlt⟩ | rfl
      · rw [hsplit hsame]
        exact Nat.mul_lt_mul_of_pos_left hlt (Nat.pow_pos (by decide))
      · rw [Nat.mul_zero]
        exact Nat.pow_pos (by decide)
    rw [hsum]
    exact mul_add_div_mod whole hbound

end

end Exact

/-! ## 3. The text of a numeral -/

/-- The text of units that are counted in a smaller scale than that of the places. -/
theorem fixedText_of_scale_le {scale places : ℕ} (hpos : 0 < scale)
    (hle : scale ≤ powerOfTen places) (units : ℕ) :
    fixedText false scale places units = fixedText false (powerOfTen places) places
      (powerOfTen places * (units / scale) + units % scale) := by
  have hlt : units % scale < powerOfTen places := (Nat.mod_lt units hpos).trans_le hle
  obtain ⟨hwhole, hrest⟩ := mul_add_div_mod (units / scale) hlt
  refine String.toList_inj.mp ?_
  rw [toList_fixedText, toList_fixedText, hwhole, hrest]

namespace Numeral

variable {text : String} {places : ℕ}

/-- The units that the number of a numeral is rounded to. -/
def shownUnits (places : ℕ) (text : String) : ℕ :=
  roundDiv .awayFromZero
    ((10 ^ (fraction text).length * Nat.ofDigitChars 10 (whole text) 0 +
      Nat.ofDigitChars 10 (fraction text) 0) * 10 ^ (places % 2 ^ 32))
    (10 ^ ((fraction text).length % 2 ^ 32))

theorem fixed_eq_text (text : String) (places : ℕ) :
    Exact.fixed places (Exact.ofLiteral ⟨whole text, fraction text⟩) =
      (Decimal.ofUnits false places
        (powerOfTen places * (shownUnits places text / 10 ^ (places % 2 ^ 32)) +
          shownUnits places text % 10 ^ (places % 2 ^ 32))).text := by
  have hle : Exact.scale places ≤ powerOfTen places :=
    Nat.pow_le_pow_right (by decide) (Nat.mod_le _ _)
  have hsignificand : Literal.significand ⟨whole text, fraction text⟩ =
      10 ^ (fraction text).length * Nat.ofDigitChars 10 (whole text) 0 +
        Nat.ofDigitChars 10 (fraction text) 0 := by
    rw [Literal.significand, Nat.ofDigitChars_append, Nat.ofDigitChars_eq_ofDigitChars_zero]
  rw [Exact.ofLiteral, Exact.fixed_mkRat_eq _ _ (Exact.scale_pos _),
    fixedText_of_scale_le (Exact.scale_pos _) hle, Decimal.fixedText_eq, Bool.false_and,
    hsignificand]
  rfl

/-- **A numeral is shown as itself** just if both of its parts are kept. -/
theorem fixed_eq_iff (h : IsNumeral text) (hplaces : (fraction text).length ≤ places) :
    Exact.fixed places (Exact.ofLiteral ⟨whole text, fraction text⟩) =
        (Decimal.ofNumeral h hplaces).text ↔
      ((fraction text).length < 2 ^ 32 ∨ ∀ c ∈ whole text, c = '0') ∧
        (places / 2 ^ 32 = (fraction text).length / 2 ^ 32 ∧
            Nat.ofDigitChars 10 (fraction text) 0 < 10 ^ ((fraction text).length % 2 ^ 32) ∨
          ∀ c ∈ fraction text, c = '0') := by
  have hlt : shownUnits places text % 10 ^ (places % 2 ^ 32) < powerOfTen places :=
    (Nat.mod_lt _ (Nat.pow_pos (by decide))).trans_le
      (Nat.pow_le_pow_right (by decide) (Nat.mod_le _ _))
  obtain ⟨hwhole, hrest⟩ :=
    mul_add_div_mod (shownUnits places text / 10 ^ (places % 2 ^ 32)) hlt
  rw [fixed_eq_text, Decimal.text_eq_iff rfl rfl, Decimal.magnitude_eq_iff,
    Decimal.ofDigitChars_whole, Decimal.ofDigitChars_whole_ofNumeral,
    Decimal.ofDigitChars_fraction, Decimal.ofDigitChars_fraction_ofNumeral, hwhole, hrest,
    Exact.parts_kept_iff (rfl : shownUnits places text = _) hplaces (Nat.mod_le _ _) (by omega),
    ofDigitChars_eq_zero_iff (isDigit_of_mem_whole h),
    ofDigitChars_eq_zero_iff (isDigit_of_mem_fraction h)]
  -- as many places are missing if the bits above the low ones are the same
  have hsmall : (fraction text).length % 2 ^ 32 = (fraction text).length ↔
      (fraction text).length < 2 ^ 32 := Nat.mod_eq_iff_lt (by decide)
  have hsame : places + (fraction text).length % 2 ^ 32 =
      (fraction text).length + places % 2 ^ 32 ↔
        places / 2 ^ 32 = (fraction text).length / 2 ^ 32 := by omega
  rw [hsmall, hsame]

end Numeral

/-- **A numeral is shown in full with fewer than `2 ^ 32` places.**  With more it is just if each
of its parts before and behind the point either has only zeros or is kept: the one before the
point if the numeral has fewer than `2 ^ 32` places itself, and the one behind it if `2 ^ 32`
goes into its places as often as into those asked for and its number has no more digits than
the remainder. -/
theorem numeral_shown_in_full_iff {text : String} (h : IsNumeral text) {places : ℕ}
    (hplaces : (Numeral.fraction text).length ≤ places) :
    ∃ x : ℚ, Number.ofText text = .ok x ∧
      (places < 2 ^ 32 → Number.fixed places x = (Decimal.ofNumeral h hplaces).text) ∧
      (2 ^ 32 ≤ places → (Number.fixed places x = (Decimal.ofNumeral h hplaces).text ↔
        ((Numeral.fraction text).length < 2 ^ 32 ∨ ∀ c ∈ Numeral.whole text, c = '0') ∧
          (places / 2 ^ 32 = (Numeral.fraction text).length / 2 ^ 32 ∧
              Nat.ofDigitChars 10 (Numeral.fraction text) 0 <
                10 ^ ((Numeral.fraction text).length % 2 ^ 32) ∨
            ∀ c ∈ Numeral.fraction text, c = '0'))) := by
  refine ⟨_, Numeral.ofText_eq h, fun hsmall => ?_, fun _ => Numeral.fixed_eq_iff h hplaces⟩
  have hlength : (Numeral.fraction text).length < 2 ^ 32 := hplaces.trans_lt hsmall
  refine (Numeral.fixed_eq_iff h hplaces).mpr ⟨Or.inl hlength, Or.inl ⟨?_, ?_⟩⟩
  · rw [Nat.div_eq_of_lt hsmall, Nat.div_eq_of_lt hlength]
  · rw [Nat.mod_eq_of_lt hlength]
    exact ofDigitChars_lt (Numeral.isDigit_of_mem_fraction h)

/-- Two zeros in front are left out, and one is put at the end. -/
theorem numeral_shown_in_full_with_three_places : IsNumeral "007.50" ∧
    (Numeral.fraction "007.50").length ≤ 3 ∧ ∃ x : ℚ, Number.ofText "007.50" = .ok x ∧
      Number.fixed 3 x = "7.500" := by
  have hnumeral : IsNumeral "007.50" := by decide
  have hplaces : (Numeral.fraction "007.50").length ≤ 3 := by decide
  obtain ⟨x, hx, hsmall, -⟩ := numeral_shown_in_full_iff hnumeral hplaces
  exact ⟨hnumeral, hplaces, x, hx, (hsmall (by decide)).trans rfl⟩

/-- With `2 ^ 33 - 1` places the scale has `2 ^ 32` zeros too few for the digit of a half. -/
theorem half_not_shown_in_full : ¬ ∀ (text : String) (h : IsNumeral text) (places : ℕ)
    (hplaces : (Numeral.fraction text).length ≤ places), ∃ x : ℚ, Number.ofText text = .ok x ∧
      Number.fixed places x = (Decimal.ofNumeral h hplaces).text := by
  intro hall
  have hhalf : IsNumeral "0.5" := by decide
  have hfraction : Numeral.fraction "0.5" = ['5'] := by decide
  have hplaces : (Numeral.fraction "0.5").length ≤ 8589934591 := by
    rw [hfraction]
    decide
  obtain ⟨x, hx, hfixed⟩ := hall "0.5" hhalf 8589934591 hplaces
  obtain rfl := Except.ok.inj ((Numeral.ofText_eq hhalf).symm.trans hx)
  obtain ⟨-, hwraps | hzeros⟩ := (Numeral.fixed_eq_iff hhalf hplaces).mp hfixed
  · rw [hfraction] at hwraps
    exact absurd hwraps.1 (by decide)
  · rw [hfraction] at hzeros
    exact absurd (hzeros '5' List.mem_cons_self) (by decide)

end PostfixCalculator
