/-
# What is read and computed, rounded once

Both arithmetics read the numerals and nothing else (`Numeral.ofText?_eq_none_iff`), and refuse
another text with one error.  A numeral has one value for both: exact arithmetic takes the
number that its digits write without the point over the power of ten of its places, and
binary64 the number nearest to its value.  The two are computed from different fractions of
that value, since the exact number is in lowest terms, and yet the binary64 number is the one
that the exact number is rounded to, for there is only one that is nearest
(`Binary64.Rounds.unique`).

Likewise the value of an exact calculation is rounded once, when all is computed: it is the
binary64 number nearest to the value in the field, of either sign
(`calculate_exact_rounds_once`).
-/
import PostfixCalculator.Proofs.Exactness
import PostfixCalculator.Proofs.Number.Binary64

namespace PostfixCalculator

/-! ## 1. Literals -/

namespace Numeral

variable {text : String}

/-- **A literal is rounded.** -/
theorem rounds_ofText (h : IsNumeral text) : ∃ x : Float,
    (Number.ofText text : Except CalcError Float) = .ok x ∧ Binary64.Rounds (value text) x := by
  refine ⟨Floating.ofLiteral ⟨whole text, fraction text⟩, ofText_eq h, ?_⟩
  have hrounds := Binary64.rounds_nearest (Literal.significand ⟨whole text, fraction text⟩)
    (powerOfTen_pos (fraction text).length)
  rwa [← Int.cast_natCast, ← Rat.mkRat_eq_div, ← value_eq] at hrounds

end Numeral

/-- **Both arithmetics read the same texts as the same numbers.**  These are the texts of
digits with at most one point and at least one digit; any other is refused by both, with the
error that names it.  The binary64 number that is read is the one nearest to the value of the
text, ties to even.  The exact number is the number that the digits write without the point
over the power of ten of the places, if these can be counted in 32 bits, and the binary64
number is bit for bit the one that it is rounded to. -/
theorem texts_read_alike (text : String) :
    (IsNumeral text → ∃ (x : Float) (y : ℚ),
      (Number.ofText text : Except CalcError Float) = .ok x ∧
      (Number.ofText text : Except CalcError ℚ) = .ok y ∧
      Binary64.Rounds (Numeral.value text) x ∧
      ((Numeral.fraction text).length < 2 ^ 32 →
        y = Nat.ofDigitChars 10 (Numeral.digits text) 0 / 10 ^ (Numeral.fraction text).length ∧
          x = Number.toFloat y)) ∧
    (¬ IsNumeral text →
      (Number.ofText text : Except CalcError Float) = .error (.invalidLiteral text) ∧
      (Number.ofText text : Except CalcError ℚ) = .error (.invalidLiteral text)) := by
  constructor
  · intro h
    obtain ⟨x, hx, hrounds⟩ := Numeral.rounds_ofText h
    by_cases hplaces : (Numeral.fraction text).length < UInt32.size
    · refine ⟨x, Numeral.value text, hx, Numeral.ofText_eq_value h hplaces, hrounds, fun _ => ?_⟩
      exact ⟨Numeral.value_eq_div h,
        hrounds.unique (Binary64.rounds_ofRat (Numeral.value_nonneg text))⟩
    · exact ⟨x, _, hx, Numeral.ofText_eq h, hrounds, fun hplaces' => absurd hplaces' hplaces⟩
  · exact fun h => ⟨Numeral.ofText_eq_error h, Numeral.ofText_eq_error h⟩

/-- Zeros in front and at the end are of no account; there are no exponents. -/
theorem texts_read_alike_seven_and_a_half :
    (∃ (x : Float) (y : ℚ), (Number.ofText "007.50" : Except CalcError Float) = .ok x ∧
      (Number.ofText "007.50" : Except CalcError ℚ) = .ok y ∧
      Binary64.Rounds (15 / 2) x ∧ y = 15 / 2 ∧ x = Number.toFloat y) ∧
    (Number.ofText "1e5" : Except CalcError Float) = .error (.invalidLiteral "1e5") ∧
    (Number.ofText "1e5" : Except CalcError ℚ) = .error (.invalidLiteral "1e5") := by
  refine ⟨?_, (texts_read_alike "1e5").2 (by decide)⟩
  have hnumeral : IsNumeral "007.50" := by decide
  have hdigits : Nat.ofDigitChars 10 (Numeral.digits "007.50") 0 = 750 := by decide
  have hplaces : (Numeral.fraction "007.50").length = 2 := by decide
  obtain ⟨x, y, hx, hy, hrounds, hsmall⟩ := (texts_read_alike "007.50").1 hnumeral
  obtain ⟨hvalue, hfloat⟩ := hsmall (by rw [hplaces]; decide)
  rw [Numeral.value_eq_div hnumeral] at hrounds
  rw [hdigits, hplaces] at hrounds hvalue
  norm_num at hrounds hvalue
  exact ⟨x, y, hx, hy, hrounds, hvalue, hfloat⟩

/-! ## 2. Calculations -/

/-- **Exact arithmetic rounds once.**  Without a division by zero the answer to a sentence is the
value in the field, rounded with its sign, and if that is finite no other finite number is
nearer. -/
theorem calculate_exact_rounds_once (settings : Settings) (layout : Layout settings.lexicon)
    {e : Expr} (h : Writes layout.tokens e) (hlegible : e.Legible) (hzero : ¬ e.DividesByZero) :
    ∃ r, calculate { settings with arithmetic := .exact } layout.text = .ok r ∧
      Binary64.RoundsWithSign e.value r.value ∧
      ∀ value, (Binary64.datum r.value).rational? = some value →
        ∀ y other, (Binary64.datum y).rational? = some other →
          |value - e.value| ≤ |other - e.value| := by
  obtain ⟨r, hr, hanswer⟩ :=
    map_eq_ok_iff.mp (toAnswer_calculate_of_not_dividesByZero h hlegible hzero)
  have hvalue : r.value = Binary64.ofRat e.value := congrArg Answer.value hanswer
  have hrounds : Binary64.RoundsWithSign e.value r.value :=
    hvalue ▸ Binary64.roundsWithSign_ofRat e.value
  exact ⟨r, hr, hrounds, fun _ hfinite _ _ hother => hrounds.abs_sub_le hfinite hother⟩

end PostfixCalculator
