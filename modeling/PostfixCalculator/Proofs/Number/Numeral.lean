/-
# Decimal numerals

A numeral is written with digits and at most one point, and has at least one digit
(`IsNumeral`).  Its value is the number before the point, and the one behind it over the power
of ten that its places say (`Numeral.value`).

Every numeral is read as a literal, cut at its point (`Numeral.ofText?_eq`), and no other text
is (`Numeral.ofText?_eq_none_iff`).  In exact
arithmetic the literal has the value of the numeral, as long as the places can be counted in
32 bits (`Numeral.ofText_eq_value`).
-/
import PostfixCalculator.Number.Exact
import Mathlib.Algebra.Order.Field.Rat
import Mathlib.Tactic.FieldSimp

namespace PostfixCalculator

theorem cast_powerOfTen (places : ℕ) : ((powerOfTen places : ℕ) : ℚ) = 10 ^ places := by
  rw [powerOfTen, Nat.pow_eq]
  push_cast
  rfl

/-- Digits with at most one point, and at least one digit. -/
structure IsNumeral (text : String) : Prop where
  alphabet : ∀ c ∈ text.toList, c.isDigit = true ∨ c = '.'
  point : text.toList.count '.' ≤ 1
  digit : ∃ c ∈ text.toList, c.isDigit = true

namespace Numeral

instance (text : String) : Decidable (IsNumeral text) :=
  decidable_of_iff
    (text.toList.all (fun c => c.isDigit || c == '.') = true ∧ text.toList.count '.' ≤ 1 ∧
      text.toList.any Char.isDigit = true)
    ⟨fun h => ⟨by simpa using h.1, h.2.1, List.any_eq_true.mp h.2.2⟩,
      fun h => ⟨by simpa using h.alphabet, h.point, List.any_eq_true.mpr h.digit⟩⟩

/-! ## 1. Value -/

/-- What stands before the point, or all of it if there is none. -/
def whole (text : String) : List Char := text.toList.takeWhile (· != '.')

/-- What stands behind the point. -/
def fraction (text : String) : List Char := (text.toList.dropWhile (· != '.')).tail

/-- The value of a numeral. -/
def value (text : String) : ℚ :=
  Nat.ofDigitChars 10 (whole text) 0 +
    Nat.ofDigitChars 10 (fraction text) 0 / 10 ^ (fraction text).length

/-! ## 2. Reading -/

variable {text : String}

/-- In a numeral it is the point that ends the digits. -/
theorem isDigit_eq (h : IsNumeral text) {c : Char} (hc : c ∈ text.toList) :
    c.isDigit = (c != '.') := by
  rcases h.alphabet c hc with hdigit | rfl
  · rw [hdigit, eq_comm, bne_iff_ne]
    rintro rfl
    exact absurd hdigit (by decide)
  · rfl

/-- Two tests that agree on the members of a list cut it at the same place. -/
theorem takeWhile_dropWhile_congr {α : Type} {p q : α → Bool} {l : List α}
    (h : ∀ x ∈ l, p x = q x) : l.takeWhile p = l.takeWhile q ∧ l.dropWhile p = l.dropWhile q := by
  induction l with
  | nil => exact ⟨rfl, rfl⟩
  | cons x l ih =>
    obtain ⟨htake, hdrop⟩ := ih fun y hy => h y (List.mem_cons_of_mem x hy)
    rw [List.takeWhile_cons, List.takeWhile_cons, List.dropWhile_cons, List.dropWhile_cons,
      h x List.mem_cons_self, htake, hdrop]
    exact ⟨rfl, rfl⟩

/-- A numeral ends with its point and the digits behind it, or has no point. -/
theorem toList_eq (text : String) :
    (text.toList = whole text ∧ text.toList.dropWhile (· != '.') = [] ∧ fraction text = []) ∨
      (text.toList = whole text ++ '.' :: fraction text ∧
        text.toList.dropWhile (· != '.') = '.' :: fraction text) := by
  have hparts : whole text ++ text.toList.dropWhile (· != '.') = text.toList :=
    List.takeWhile_append_dropWhile
  have hpoint := List.head?_dropWhile_not (· != '.') text.toList
  rw [fraction]
  cases hrest : text.toList.dropWhile (· != '.') with
  | nil =>
    rw [hrest, List.append_nil] at hparts
    exact Or.inl ⟨hparts.symm, rfl, rfl⟩
  | cons c rest =>
    rw [hrest] at hparts hpoint
    obtain rfl : c = '.' := by simpa using hpoint
    exact Or.inr ⟨hparts.symm, rfl⟩

/-- There are only digits before the point of a numeral. -/
theorem isDigit_of_mem_whole (h : IsNumeral text) : ∀ c ∈ whole text, c.isDigit = true := by
  intro c hc
  rw [isDigit_eq h (List.takeWhile_subset _ hc)]
  exact List.all_eq_true.mp List.all_takeWhile c hc

/-- There are only digits behind the point of a numeral. -/
theorem isDigit_of_mem_fraction (h : IsNumeral text) :
    ∀ c ∈ fraction text, c.isDigit = true := by
  intro c hc
  rcases toList_eq text with ⟨-, -, hnone⟩ | ⟨htext, -⟩
  · rw [hnone] at hc
    exact absurd hc List.not_mem_nil
  · have hpoint := h.point
    rw [htext, List.count_append, List.count_cons_self] at hpoint
    have hfraction : (fraction text).count '.' = 0 := by omega
    have hmem : c ∈ text.toList := by
      rw [htext]
      exact List.mem_append_right _ (List.mem_cons_of_mem _ hc)
    rw [isDigit_eq h hmem, bne_iff_ne]
    rintro rfl
    exact List.count_eq_zero.mp hfraction hc

/-- A numeral is more than its point. -/
theorem isEmpty_and_isEmpty (h : IsNumeral text) :
    ((whole text).isEmpty && (fraction text).isEmpty) = false := by
  rw [← Bool.not_eq_true, Bool.and_eq_true, List.isEmpty_iff, List.isEmpty_iff]
  rintro ⟨hwhole, hfraction⟩
  obtain ⟨c, hc, hdigit⟩ := h.digit
  rcases toList_eq text with ⟨htext, -, -⟩ | ⟨htext, -⟩
  · rw [htext, hwhole] at hc
    exact absurd hc List.not_mem_nil
  · rw [htext, hwhole, hfraction, List.nil_append, List.mem_singleton] at hc
    rw [hc] at hdigit
    exact absurd hdigit (by decide)

/-- **Every numeral is read**, cut at its point. -/
theorem ofText?_eq (h : IsNumeral text) :
    Literal.ofText? text = some ⟨whole text, fraction text⟩ := by
  obtain ⟨htake, hdrop⟩ := takeWhile_dropWhile_congr fun c hc => isDigit_eq h hc
  have hdigits : text.toList.takeWhile Char.isDigit = whole text := htake
  have hsome := isEmpty_and_isEmpty h
  rw [Literal.ofText?, hdigits, hdrop]
  rcases toList_eq text with ⟨-, hrest, hnone⟩ | ⟨-, hrest⟩
  · rw [hnone, List.isEmpty_nil, Bool.and_true] at hsome
    simp [hrest, hnone, hsome]
  · have hall : (fraction text).all Char.isDigit = true :=
      List.all_eq_true.mpr (isDigit_of_mem_fraction h)
    simp only [hrest, hall, hsome]
    rfl

theorem count_point_eq_zero {digits : List Char} (h : ∀ c ∈ digits, c.isDigit = true) :
    digits.count '.' = 0 := by
  refine List.count_eq_zero.mpr fun hpoint => ?_
  exact absurd (h '.' hpoint) (by decide)

theorem isNumeral_of_point {before behind : List Char}
    (htext : text.toList = before ++ '.' :: behind) (hbefore : ∀ c ∈ before, c.isDigit = true)
    (hbehind : ∀ c ∈ behind, c.isDigit = true) (hne : before ++ behind ≠ []) : IsNumeral text where
  alphabet := by
    intro c hc
    rw [htext, List.mem_append, List.mem_cons] at hc
    rcases hc with hc | rfl | hc
    · exact Or.inl (hbefore c hc)
    · exact Or.inr rfl
    · exact Or.inl (hbehind c hc)
  point := by
    rw [htext, List.count_append, List.count_cons_self, count_point_eq_zero hbefore,
      count_point_eq_zero hbehind]
  digit := by
    obtain ⟨c, hc⟩ := List.exists_mem_of_ne_nil _ hne
    have hdigit : c.isDigit = true := List.forall_mem_append.mpr ⟨hbefore, hbehind⟩ c hc
    refine ⟨c, ?_, hdigit⟩
    rw [htext, List.mem_append, List.mem_cons]
    exact (List.mem_append.mp hc).imp_right Or.inr

/-- **Only numerals are read.** -/
theorem isNumeral_of_ofText? {l : Literal} (h : Literal.ofText? text = some l) :
    IsNumeral text := by
  have hparts : text.toList.takeWhile Char.isDigit ++ text.toList.dropWhile Char.isDigit =
      text.toList := List.takeWhile_append_dropWhile
  have hwhole : ∀ c ∈ text.toList.takeWhile Char.isDigit, c.isDigit = true :=
    fun c hc => List.all_eq_true.mp List.all_takeWhile c hc
  rw [Literal.ofText?] at h
  cases hrest : text.toList.dropWhile Char.isDigit with
  | nil =>
    rw [hrest, List.append_nil] at hparts
    rw [hrest, hparts] at h
    rw [hparts] at hwhole
    obtain ⟨c, hc⟩ : ∃ c, c ∈ text.toList := by
      refine List.exists_mem_of_ne_nil _ fun hnil => ?_
      simp [hnil] at h
    exact ⟨fun c hc => Or.inl (hwhole c hc), by rw [count_point_eq_zero hwhole]; decide,
      c, hc, hwhole c hc⟩
  | cons c fraction =>
    simp only [hrest] at h
    split at h
    · rename_i hliteral
      simp only [Bool.and_eq_true, beq_iff_eq, List.all_eq_true, Bool.not_eq_true'] at hliteral
      obtain ⟨⟨rfl, hfraction⟩, hsome⟩ := hliteral
      rw [hrest] at hparts
      refine isNumeral_of_point hparts.symm hwhole hfraction fun hnil => ?_
      obtain ⟨hwhole', hfraction'⟩ := List.append_eq_nil_iff.mp hnil
      rw [hwhole', hfraction'] at hsome
      exact absurd hsome (by decide)
    · exact absurd h.symm (Option.some_ne_none l)

/-- **All other texts are refused.** -/
theorem ofText?_eq_none_iff : Literal.ofText? text = none ↔ ¬ IsNumeral text := by
  constructor
  · intro hnone hnumeral
    rw [ofText?_eq hnumeral] at hnone
    exact absurd hnone (Option.some_ne_none _)
  · intro hnumeral
    rw [Option.eq_none_iff_forall_ne_some]
    exact fun l h => hnumeral (isNumeral_of_ofText? h)

section

variable {α : Type} [Number α]

/-- **In every arithmetic** a numeral is the number of its literal, -/
theorem ofText_eq (h : IsNumeral text) :
    (Number.ofText text : Except CalcError α) =
      .ok (Number.ofLiteral ⟨whole text, fraction text⟩) := by
  rw [Number.ofText, ofText?_eq h]

/-- and another text is refused. -/
theorem ofText_eq_error (h : ¬ IsNumeral text) :
    (Number.ofText text : Except CalcError α) = .error (.invalidLiteral text) := by
  rw [Number.ofText, ofText?_eq_none_iff.mpr h]

end

/-! ## 3. Exact arithmetic -/

/-- The digits of a literal, without its point, are the value times a power of ten. -/
theorem value_eq (text : String) :
    value text = mkRat (Literal.significand ⟨whole text, fraction text⟩)
      (powerOfTen (fraction text).length) := by
  rw [Rat.mkRat_eq_div, cast_powerOfTen, Literal.significand, Nat.ofDigitChars_append,
    Nat.ofDigitChars_eq_ofDigitChars_zero, value]
  push_cast
  field_simp

/-- The digits of a text, without its point. -/
def digits (text : String) : List Char := text.toList.filter Char.isDigit

/-- The digits of a numeral are those before its point and those behind it. -/
theorem digits_eq (h : IsNumeral text) : digits text = whole text ++ fraction text := by
  have hwhole : (whole text).filter Char.isDigit = whole text :=
    List.filter_eq_self.mpr (isDigit_of_mem_whole h)
  have hfraction : (fraction text).filter Char.isDigit = fraction text :=
    List.filter_eq_self.mpr (isDigit_of_mem_fraction h)
  rw [digits]
  rcases toList_eq text with ⟨htext, -, hnone⟩ | ⟨htext, -⟩
  · rw [htext, hwhole, hnone, List.append_nil]
  · rw [htext, List.filter_append, hwhole, List.filter_cons_of_neg (by decide), hfraction]

/-- **The value is the number of the digits over the power of ten of the places.** -/
theorem value_eq_div (h : IsNumeral text) :
    value text = Nat.ofDigitChars 10 (digits text) 0 / 10 ^ (fraction text).length := by
  rw [value_eq, Rat.mkRat_eq_div, cast_powerOfTen, Literal.significand, digits_eq h,
    Int.cast_natCast]

theorem value_nonneg (text : String) : 0 ≤ value text := by
  rw [value_eq]
  exact Rat.mkRat_nonneg (Int.natCast_nonneg _) _

/-- **A numeral enters with its exact value.** -/
theorem ofText_eq_value (h : IsNumeral text) (hplaces : (fraction text).length < UInt32.size) :
    (Number.ofText text : Except CalcError ℚ) = .ok (value text) := by
  rw [ofText_eq h, value_eq, ← Exact.scale_of_lt hplaces]
  rfl

end Numeral

end PostfixCalculator
