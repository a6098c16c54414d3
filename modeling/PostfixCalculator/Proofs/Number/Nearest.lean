/-
# The whole number nearest to a quotient

The rounded quotient of two whole numbers, seen as a rounding of the rational number that they
make.  It is at most a half away from it (`abs_roundDiv_sub_le`).  When a half goes away from
zero, it is the floor of the number with a half added (`roundDiv_awayFromZero_eq_floor`).

The tie rules differ halfway between two whole numbers and nowhere else
(`roundDiv_eq_roundDiv`).  There the one takes the larger neighbour and the other the even one
(`roundDiv_awayFromZero_of_half`, `roundDiv_toEven_of_half`).  So it is the quotient alone that
is rounded, whichever numbers make it (`roundDiv_congr`).
-/
import PostfixCalculator.Number.Rounding
import Mathlib.Algebra.Order.Floor.Semifield
import Mathlib.Data.Rat.Floor
import Mathlib.Tactic.FieldSimp
import Mathlib.Tactic.Linarith

namespace PostfixCalculator

variable {num den k : ℕ}

/-! ## 1. Distance -/

/-- **Rounding moves by a half at most.** -/
theorem abs_roundDiv_sub_le (tie : Tie) (num : ℕ) (h : 0 < den) :
    |(roundDiv tie num den : ℚ) - num / den| ≤ 1 / 2 := by
  have hden : (0 : ℚ) < den := Nat.cast_pos.mpr h
  have habove : ((2 * (roundDiv tie num den * den) : ℕ) : ℚ) ≤ ((2 * num + den : ℕ) : ℚ) :=
    Nat.cast_le.mpr (two_mul_roundDiv_mul_le tie num den)
  have hbelow : ((2 * num : ℕ) : ℚ) ≤ ((2 * (roundDiv tie num den * den) + den : ℕ) : ℚ) :=
    Nat.cast_le.mpr (two_mul_le_roundDiv_mul tie num h)
  push_cast at habove hbelow
  have hlow : (num : ℚ) / den ≤ roundDiv tie num den + 1 / 2 := by
    rw [div_le_iff₀ hden]
    linarith
  have hhigh : (roundDiv tie num den : ℚ) - 1 / 2 ≤ num / den := by
    rw [le_div_iff₀ hden]
    linarith
  rw [abs_le]
  constructor <;> linarith

/-! ## 2. A half away from zero -/

theorem roundDiv_awayFromZero_eq_div (num : ℕ) (h : 0 < den) :
    roundDiv .awayFromZero num den = (2 * num + den) / (2 * den) := by
  have hdiv : num / den * den + num % den = num := Nat.div_add_mod' num den
  have hlt : num % den < den := Nat.mod_lt num h
  have hsplit : 2 * num + den = 2 * (num % den) + den + num / den * (2 * den) := by
    have hassoc : num / den * (2 * den) = 2 * (num / den * den) := by
      rw [← Nat.mul_assoc, Nat.mul_comm (num / den) 2, Nat.mul_assoc]
    omega
  -- the remainder alone decides whether the half that is added makes one more
  rw [hsplit, Nat.add_mul_div_right _ _ (by omega)]
  rcases Nat.lt_or_ge (2 * (num % den)) den with hdown | hup
  · have hrest : (2 * (num % den) + den) / (2 * den) = 0 := Nat.div_eq_of_lt (by omega)
    rw [hrest, Nat.zero_add]
    simp [roundDiv, hdown]
  · have hrest : (2 * (num % den) + den) / (2 * den) = 1 :=
      Nat.div_eq_of_lt_le (by omega) (by omega)
    have hnot : ¬ 2 * (num % den) < den := Nat.not_lt.mpr hup
    rw [hrest, Nat.add_comm]
    simp [roundDiv, hnot, Tie.roundsUp]

/-- **It is the floor of the quotient and a half.** -/
theorem roundDiv_awayFromZero_eq_floor (num : ℕ) (h : 0 < den) :
    roundDiv .awayFromZero num den = ⌊(num : ℚ) / den + 1 / 2⌋₊ := by
  have hden : (den : ℚ) ≠ 0 := Nat.cast_ne_zero.mpr (Nat.ne_of_gt h)
  have hquotient : (num : ℚ) / den + 1 / 2 = ((2 * num + den : ℕ) : ℚ) / ((2 * den : ℕ) : ℚ) := by
    push_cast
    field_simp
  rw [hquotient, Nat.floor_div_eq_div, roundDiv_awayFromZero_eq_div num h]

/-! ## 3. Halves -/

/-- A quotient is halfway above a whole number if the remainder is half of the divisor. -/
theorem div_eq_add_half_iff (h : 0 < den) :
    (num : ℚ) / den = k + 1 / 2 ↔ num / den = k ∧ 2 * (num % den) = den := by
  have hden : (den : ℚ) ≠ 0 := Nat.cast_ne_zero.mpr (Nat.ne_of_gt h)
  have hwhole : (num : ℚ) / den = k + 1 / 2 ↔ 2 * num = 2 * (k * den) + den := by
    rw [div_eq_iff hden, ← @Nat.cast_inj ℚ]
    push_cast
    constructor <;> intro heq <;> linarith
  have hdiv : num / den * den + num % den = num := Nat.div_add_mod' num den
  rw [hwhole]
  constructor
  · intro heq
    have hquotient : num / den = k :=
      Nat.div_eq_of_lt_le (by omega) (by rw [Nat.succ_mul]; omega)
    rw [hquotient] at hdiv
    exact ⟨hquotient, by omega⟩
  · rintro ⟨rfl, hrest⟩
    omega

theorem roundDiv_awayFromZero_of_half (h : 0 < den) (hk : (num : ℚ) / den = k + 1 / 2) :
    roundDiv .awayFromZero num den = k + 1 := by
  obtain ⟨rfl, hrest⟩ := (div_eq_add_half_iff h).mp hk
  exact roundDiv_of_half .awayFromZero hrest

theorem roundDiv_toEven_of_half (h : 0 < den) (hk : (num : ℚ) / den = k + 1 / 2) :
    roundDiv .toEven num den = if Even k then k else k + 1 := by
  obtain ⟨rfl, hrest⟩ := (div_eq_add_half_iff h).mp hk
  rw [roundDiv_of_half .toEven hrest, Tie.roundsUp]
  split_ifs with hodd heven heven
  · exact absurd (beq_iff_eq.mp hodd) (by rw [Nat.even_iff.mp heven]; decide)
  · rfl
  · rfl
  · exact absurd (beq_iff_eq.mpr (Nat.not_even_iff.mp heven)) hodd

/-- **The tie rules agree on all other quotients.** -/
theorem roundDiv_eq_roundDiv (tie tie' : Tie) (h : 0 < den)
    (hhalf : ∀ k : ℕ, (num : ℚ) / den ≠ k + 1 / 2) :
    roundDiv tie num den = roundDiv tie' num den := by
  have hrest : 2 * (num % den) ≠ den :=
    fun hrest => hhalf (num / den) ((div_eq_add_half_iff h).mpr ⟨rfl, hrest⟩)
  unfold roundDiv
  grind

/-- **Rounding sees the quotient alone**, not the numbers that make it. -/
theorem roundDiv_congr (tie : Tie) {num' den' : ℕ} (h : 0 < den) (h' : 0 < den')
    (heq : (num : ℚ) / den = num' / den') : roundDiv tie num den = roundDiv tie num' den' := by
  by_cases hhalf : ∃ k : ℕ, (num : ℚ) / den = k + 1 / 2
  · obtain ⟨k, hk⟩ := hhalf
    have hk' : (num' : ℚ) / den' = k + 1 / 2 := heq.symm.trans hk
    cases tie with
    | toEven => rw [roundDiv_toEven_of_half h hk, roundDiv_toEven_of_half h' hk']
    | awayFromZero => rw [roundDiv_awayFromZero_of_half h hk, roundDiv_awayFromZero_of_half h' hk']
  · have hnone : ∀ k : ℕ, (num : ℚ) / den ≠ k + 1 / 2 := not_exists.mp hhalf
    have hnone' : ∀ k : ℕ, (num' : ℚ) / den' ≠ k + 1 / 2 := fun k hk => hnone k (heq.trans hk)
    rw [roundDiv_eq_roundDiv tie .awayFromZero h hnone,
      roundDiv_eq_roundDiv tie .awayFromZero h' hnone', roundDiv_awayFromZero_eq_floor num h,
      roundDiv_awayFromZero_eq_floor num' h', heq]

end PostfixCalculator
