/-
# Rounding to binary64

Seen as whole numbers, the bits of the numbers without a sign come in the order of the numbers
they stand for: a significand that is full carries into the exponent field.  If the field had
no end, this would go on for all bits (`Binary64.magnitude`, `Binary64.strictMono_magnitude`),
and below the bits of infinity nothing else is meant by them (`Binary64.rational?_ofBits`).
With a sign bit in front they stand for the negative numbers (`Binary64.signedBits`).

Bits are nearest to a number if none are nearer, and if they are even in case others are as
near (`Binary64.IsNearest`).  There are no two such (`Binary64.IsNearest.unique`), since of two
even ones the odd ones between them would be nearer.  A number is rounded to its nearest bits,
or to infinity if these are too large (`Binary64.Rounds`).

The rounding of a quotient does this (`Binary64.rounds_nearest`).  It measures the quotient in
units of which every bit pattern from `2 ^ 52` to `2 ^ 53` units is a whole number, and those
outside are too far away to matter (`Binary64.isNearest_of_units`).  A rational number of either
sign is rounded by its magnitude (`Binary64.roundsWithSign_ofRat`), so that no finite number of
either sign is nearer to it (`Binary64.RoundsWithSign.abs_sub_le`).
-/
import PostfixCalculator.Proofs.Number.BothTexts
import Mathlib

namespace PostfixCalculator.Binary64

/-! ## 1. What bits stand for -/

/-- The number that bits without a sign stand for, were there no largest exponent. -/
def magnitude (bits : ℕ) : ℚ :=
  (bits - (bits / leadingBit - 1) * leadingBit : ℕ) * 2 ^ ((bits / leadingBit - 1 : ℕ) - 1074 : ℤ)

/-- **Units**: the significand counts them, also one that is just full. -/
theorem magnitude_add {k m : ℕ} (hm : m ≤ 2 * leadingBit) (h : leadingBit ≤ m ∨ k = 0) :
    magnitude (k * leadingBit + m) = m * 2 ^ (k - 1074 : ℤ) := by
  have hpos : 0 < leadingBit := by decide
  rcases Nat.lt_or_ge m leadingBit with hsmall | hlarge
  · obtain rfl : k = 0 := h.resolve_left (Nat.not_le.mpr hsmall)
    have hfield : (0 * leadingBit + m) / leadingBit - 1 = 0 := by
      rw [Nat.zero_mul, Nat.zero_add, Nat.div_eq_of_lt hsmall]
    rw [magnitude, hfield, Nat.zero_mul, Nat.zero_add, Nat.sub_zero]
  · rcases Nat.lt_or_eq_of_le hm with hbelow | rfl
    · have hfield : (k * leadingBit + m) / leadingBit - 1 = k := by
        rw [Nat.mul_comm, Nat.mul_add_div hpos,
          Nat.div_eq_of_lt_le (k := 1) (by omega) (by omega), Nat.add_sub_cancel]
      rw [magnitude, hfield, Nat.add_sub_cancel_left]
    · have hfield : (k * leadingBit + 2 * leadingBit) / leadingBit - 1 = k + 1 := by
        rw [← Nat.add_mul, Nat.mul_div_cancel _ hpos]
        rfl
      have hrest : k * leadingBit + 2 * leadingBit - (k + 1) * leadingBit = leadingBit := by
        rw [Nat.add_mul]
        omega
      have hpower : (2 : ℚ) ^ ((k + 1 : ℕ) - 1074 : ℤ) = 2 * 2 ^ (k - 1074 : ℤ) := by
        rw [← zpow_one_add₀ two_ne_zero]
        congr 1
        push_cast
        ring
      rw [magnitude, hfield, hrest, hpower]
      push_cast
      ring

/-- All bits are of that form. -/
theorem exists_eq_add (bits : ℕ) :
    ∃ k m, bits = k * leadingBit + m ∧ m < 2 * leadingBit ∧ (leadingBit ≤ m ∨ k = 0) := by
  refine ⟨bits / leadingBit - 1, bits - (bits / leadingBit - 1) * leadingBit, ?_⟩
  unfold leadingBit
  omega

/-- **The order of the bits is that of the numbers.** -/
theorem strictMono_magnitude : StrictMono magnitude := by
  refine strictMono_nat_of_lt_succ fun bits => ?_
  obtain ⟨k, m, rfl, hm, hk⟩ := exists_eq_add bits
  rw [Nat.add_assoc, magnitude_add hm.le hk, magnitude_add hm (hk.imp_left Nat.le_succ_of_le)]
  have hunit : (0 : ℚ) < 2 ^ (k - 1074 : ℤ) := by positivity
  push_cast
  linarith

theorem magnitude_nonneg (bits : ℕ) : 0 ≤ magnitude bits := by
  unfold magnitude
  positivity

/-- Bits with the sign bit in front of them, or without it. -/
def signedBits (negative : Bool) (bits : ℕ) : ℕ := (if negative then signBit else 0) + bits

/-- The sign bit is read apart from the others. -/
theorem fields_signedBits (negative : Bool) {bits : ℕ} (h : bits < signBit) :
    (signedBits negative bits / signBit % 2 == 1) = negative ∧
      signedBits negative bits / leadingBit % (specialField + 1) = bits / leadingBit ∧
      signedBits negative bits % leadingBit = bits % leadingBit := by
  unfold signedBits signBit leadingBit specialField at *
  cases negative with
  | true =>
    rw [if_pos rfl, beq_iff_eq]
    omega
  | false =>
    rw [if_neg Bool.false_ne_true, beq_eq_false_iff_ne]
    omega

theorem signedBits_inj {negative negative' : Bool} {bits bits' : ℕ} (h : bits < signBit)
    (h' : bits' < signBit) (heq : signedBits negative bits = signedBits negative' bits') :
    negative = negative' ∧ bits = bits' := by
  obtain rfl : negative = negative' := by
    rw [← (fields_signedBits negative h).1, heq, (fields_signedBits negative' h').1]
  exact ⟨rfl, Nat.add_left_cancel heq⟩

/-- **Below the bits of infinity** they are the bits of a binary64 number. -/
theorem rational?_ofBits (negative : Bool) {bits : ℕ} (h : bits < infinityBits) :
    (Datum.ofBits (signedBits negative bits)).rational? =
      some ((if negative then -1 else 1) * magnitude bits) := by
  obtain ⟨hsign, hexponent, hrest⟩ := fields_signedBits negative (h.trans (by decide))
  rw [Datum.ofBits, hsign, hexponent, hrest]
  obtain ⟨k, m, rfl, hm, hk⟩ := exists_eq_add bits
  rw [magnitude_add hm.le hk]
  rcases Nat.lt_or_ge m leadingBit with hsmall | hlarge
  · obtain rfl : k = 0 := hk.resolve_left (Nat.not_le.mpr hsmall)
    have hfield : (0 * leadingBit + m) / leadingBit = 0 := by
      rw [Nat.zero_mul, Nat.zero_add, Nat.div_eq_of_lt hsmall]
    have hfraction : (0 * leadingBit + m) % leadingBit = m := by
      rw [Nat.zero_mul, Nat.zero_add, Nat.mod_eq_of_lt hsmall]
    simp only [hfield, hfraction]
    rw [if_neg (by decide), if_pos trivial, Datum.rational?]
    rfl
  · have hfield : (k * leadingBit + m) / leadingBit = k + 1 := by
      unfold leadingBit at *
      omega
    have hfraction : leadingBit + (k * leadingBit + m) % leadingBit = m := by
      unfold leadingBit at *
      omega
    have hk' : k + 1 ≠ specialField := by
      unfold infinityBits specialField leadingBit at *
      omega
    simp only [hfield, hfraction]
    rw [if_neg hk', if_neg (Nat.succ_ne_zero k), Datum.rational?]
    push_cast
    congr 4
    ring

/-- From there on they are the bits of no finite number. -/
theorem lt_infinityBits {negative : Bool} {bits : ℕ} {value : ℚ} (h : bits < signBit)
    (hvalue : (Datum.ofBits (signedBits negative bits)).rational? = some value) :
    bits < infinityBits := by
  obtain ⟨-, hexponent, -⟩ := fields_signedBits negative h
  by_contra hlarge
  have hspecial : bits / leadingBit = specialField := by
    unfold infinityBits signBit specialField leadingBit at *
    omega
  rw [Datum.ofBits, hexponent, if_pos hspecial] at hvalue
  split at hvalue <;> exact absurd hvalue nofun

theorem exists_signedBits {word : ℕ} (h : word < 2 * signBit) :
    ∃ negative bits, word = signedBits negative bits ∧ bits < signBit := by
  rcases Nat.lt_or_ge word signBit with hlt | hge
  · exact ⟨false, word, (Nat.zero_add _).symm, hlt⟩
  · refine ⟨true, word - signBit, ?_, by omega⟩
    rw [signedBits, if_pos rfl, Nat.add_sub_cancel' hge]

/-- **A finite number** is a sign and bits below those of infinity. -/
theorem exists_of_rational? {x : Float} {value : ℚ} (h : (datum x).rational? = some value) :
    ∃ negative bits, x.toBits.toNat = signedBits negative bits ∧ bits < infinityBits ∧
      value = (if negative then -1 else 1) * magnitude bits := by
  obtain ⟨negative, bits, hword, hbits⟩ := exists_signedBits x.toBits.toNat_lt
  rw [datum, hword] at h
  have hlt := lt_infinityBits hbits h
  rw [rational?_ofBits negative hlt] at h
  exact ⟨negative, bits, hword, hlt, (Option.some.inj h).symm⟩

/-! ## 2. Nearest bits -/

/-- No bits are nearer to `q`, and these are even if others are as near. -/
structure IsNearest (q : ℚ) (bits : ℕ) : Prop where
  le : ∀ other, |magnitude bits - q| ≤ |magnitude other - q|
  even : ∀ other, other ≠ bits → |magnitude other - q| = |magnitude bits - q| → Even bits

/-- Between two numbers that are as near there are nearer ones. -/
theorem abs_sub_lt_of_between {q x y z : ℚ} (hxy : x < y) (hyz : y < z)
    (h : |x - q| = |z - q|) : |y - q| < |x - q| := by
  have hmiddle : z - q = -(x - q) := by
    rcases abs_eq_abs.mp h with heq | hneg
    · linarith
    · linarith
  have hx : x - q < 0 := by linarith
  rw [abs_of_neg hx, abs_lt]
  constructor <;> linarith

/-- **There are no two nearest.** -/
theorem IsNearest.unique {q : ℚ} {bits bits' : ℕ} (h : IsNearest q bits)
    (h' : IsNearest q bits') : bits = bits' := by
  have hsame : |magnitude bits - q| = |magnitude bits' - q| := le_antisymm (h.le _) (h'.le _)
  by_contra hne
  have heven : Even bits := h.even bits' (Ne.symm hne) hsame.symm
  have heven' : Even bits' := h'.even bits hne hsame
  -- the odd bits behind the smaller ones are nearer than both
  have hnearer : ∀ {b b' : ℕ}, b < b' → Even b → Even b' →
      |magnitude b - q| = |magnitude b' - q| → |magnitude (b + 1) - q| < |magnitude b - q| := by
    intro b b' hlt hb hb' hdistance
    have hodd : b + 1 ≠ b' := fun heq => Nat.not_even_iff_odd.mpr hb.add_one (heq ▸ hb')
    exact abs_sub_lt_of_between (strictMono_magnitude (Nat.lt_succ_self b))
      (strictMono_magnitude (lt_of_le_of_ne hlt hodd)) hdistance
  rcases Nat.lt_or_gt_of_ne hne with hlt | hgt
  · exact absurd (h.le (bits + 1)) (not_le.mpr (hnearer hlt heven heven' hsame))
  · exact absurd (h'.le (bits' + 1)) (not_le.mpr (hnearer hgt heven' heven hsame.symm))

/-! ## 3. Whole numbers of units -/

/-- Nothing whole is nearer than a whole number at most a half away, and as near only if it
is a half away. -/
theorem abs_sub_le_of_whole {x : ℚ} {m : ℕ} (h : |(m : ℚ) - x| ≤ 1 / 2) (other : ℕ) :
    |(m : ℚ) - x| ≤ |(other : ℚ) - x| ∧
      (other ≠ m → |(other : ℚ) - x| = |(m : ℚ) - x| → |(m : ℚ) - x| = 1 / 2) := by
  by_cases heq : other = m
  · rw [heq]
    exact ⟨le_refl _, fun hne => absurd rfl hne⟩
  · have hapart : (1 : ℚ) ≤ |(other : ℚ) - m| := by
      have hint : (1 : ℤ) ≤ |(other : ℤ) - m| :=
        Int.one_le_abs (sub_ne_zero.mpr fun hcast => heq (Int.natCast_inj.mp hcast))
      exact_mod_cast hint
    have htriangle : |(other : ℚ) - m| ≤ |(other : ℚ) - x| + |(m : ℚ) - x| := by
      rw [abs_sub_comm (m : ℚ) x]
      exact abs_sub_le _ _ _
    have hfar : 1 / 2 ≤ |(other : ℚ) - x| := by linarith
    exact ⟨h.trans hfar, fun _ hsame => le_antisymm h (hsame ▸ hfar)⟩

/-- A whole number at most a half away is on the same side of whole numbers. -/
theorem le_and_le_of_whole {x : ℚ} {m n : ℕ} (h : |(m : ℚ) - x| ≤ 1 / 2) :
    (x ≤ n → m ≤ n) ∧ (n ≤ x → n ≤ m) := by
  obtain ⟨hlow, hhigh⟩ := abs_le.mp h
  constructor
  · intro hx
    have hlt : (m : ℚ) < (n + 1 : ℕ) := by
      push_cast
      linarith
    exact Nat.lt_succ_iff.mp (Nat.cast_lt.mp hlt)
  · intro hx
    have hlt : (n : ℚ) < (m + 1 : ℕ) := by
      push_cast
      linarith
    exact Nat.lt_succ_iff.mp (Nat.cast_lt.mp hlt)

/-- Beyond a number on the far side of `q` everything is farther away. -/
theorem abs_sub_lt_of_beyond {q x y : ℚ} (h : y < x ∧ x ≤ q ∨ q ≤ x ∧ x < y) :
    |x - q| < |y - q| := by
  rcases h with ⟨hyx, hxq⟩ | ⟨hqx, hxy⟩
  · rw [abs_of_nonpos (by linarith), abs_of_nonpos (by linarith)]
    linarith
  · rw [abs_of_nonneg (by linarith), abs_of_nonneg (by linarith)]
    linarith

section

variable {q x : ℚ} {k m : ℕ}

/-- All bits count units up to `2 ^ 53`, or are below these or above. -/
theorem units_cases (k other : ℕ) :
    (∃ j, other = k * leadingBit + j ∧ j ≤ 2 * leadingBit ∧ (leadingBit ≤ j ∨ k = 0)) ∨
      (k ≠ 0 ∧ other < k * leadingBit + leadingBit) ∨
      k * leadingBit + 2 * leadingBit < other := by
  by_cases hbelow : k ≠ 0 ∧ other < k * leadingBit + leadingBit
  · exact Or.inr (Or.inl hbelow)
  · by_cases habove : k * leadingBit + 2 * leadingBit < other
    · exact Or.inr (Or.inr habove)
    · refine Or.inl ⟨other - k * leadingBit, ?_⟩
      rcases Nat.eq_zero_or_pos k with rfl | hk
      · exact ⟨by omega, by omega, Or.inr rfl⟩
      · have hge := not_and.mp hbelow (Nat.ne_of_gt hk)
        exact ⟨by omega, by omega, Or.inl (by omega)⟩

/-- Where bits count units, distances are measured in units, too. -/
theorem abs_magnitude_sub (hq : q = x * 2 ^ (k - 1074 : ℤ)) {j : ℕ} (hj : j ≤ 2 * leadingBit)
    (hjk : leadingBit ≤ j ∨ k = 0) :
    |magnitude (k * leadingBit + j) - q| = |(j : ℚ) - x| * 2 ^ (k - 1074 : ℤ) := by
  have hunit : (0 : ℚ) < 2 ^ (k - 1074 : ℤ) := by positivity
  rw [magnitude_add hj hjk, hq, ← sub_mul, abs_mul, abs_of_pos hunit]

/-- Bits outside are farther away than those at one of the ends. -/
theorem exists_nearer_end (hq : q = x * 2 ^ (k - 1074 : ℤ)) (hx : x ≤ 2 * leadingBit)
    (hx' : (leadingBit : ℚ) ≤ x ∨ k = 0) {other : ℕ}
    (hother : (k ≠ 0 ∧ other < k * leadingBit + leadingBit) ∨
      k * leadingBit + 2 * leadingBit < other) :
    ∃ j, j ≤ 2 * leadingBit ∧ (leadingBit ≤ j ∨ k = 0) ∧
      |magnitude (k * leadingBit + j) - q| < |magnitude other - q| := by
  have hunit : (0 : ℚ) < 2 ^ (k - 1074 : ℤ) := by positivity
  rcases hother with ⟨hk, hbelow⟩ | habove
  · refine ⟨leadingBit, by omega, Or.inl (le_refl _), abs_sub_lt_of_beyond (Or.inl ⟨?_, ?_⟩)⟩
    · exact strictMono_magnitude hbelow
    · rw [magnitude_add (by omega) (Or.inl (le_refl _)), hq]
      exact mul_le_mul_of_nonneg_right (hx'.resolve_right hk) hunit.le
  · refine ⟨2 * leadingBit, le_refl _, Or.inl (by omega),
      abs_sub_lt_of_beyond (Or.inr ⟨?_, ?_⟩)⟩
    · rw [magnitude_add (le_refl _) (Or.inl (by omega)), hq]
      exact mul_le_mul_of_nonneg_right (by exact_mod_cast hx) hunit.le
    · exact strictMono_magnitude habove

/-- **A number measured in units.**  It is `x` units, of which bits from `2 ^ 52` units to
`2 ^ 53` are whole numbers, or from none if there are no smaller units.  Then the whole number
of units that is nearest to `x` is nearest of all. -/
theorem isNearest_of_units (hq : q = x * 2 ^ (k - 1074 : ℤ))
    (hx : x ≤ 2 * leadingBit) (hx' : (leadingBit : ℚ) ≤ x ∨ k = 0)
    (hnear : |(m : ℚ) - x| ≤ 1 / 2) (htie : |(m : ℚ) - x| = 1 / 2 → Even m) :
    IsNearest q (k * leadingBit + m) := by
  have hm : m ≤ 2 * leadingBit := (le_and_le_of_whole hnear).1 (by exact_mod_cast hx)
  have hk : leadingBit ≤ m ∨ k = 0 := hx'.imp_left (le_and_le_of_whole hnear).2
  have hunit : (0 : ℚ) < 2 ^ (k - 1074 : ℤ) := by positivity
  have hinside : ∀ {j : ℕ}, j ≤ 2 * leadingBit → (leadingBit ≤ j ∨ k = 0) →
      |magnitude (k * leadingBit + m) - q| ≤ |magnitude (k * leadingBit + j) - q| := by
    intro j hj hjk
    rw [abs_magnitude_sub hq hm hk, abs_magnitude_sub hq hj hjk]
    exact mul_le_mul_of_nonneg_right (abs_sub_le_of_whole hnear j).1 hunit.le
  have houtside : ∀ {other : ℕ}, ((k ≠ 0 ∧ other < k * leadingBit + leadingBit) ∨
      k * leadingBit + 2 * leadingBit < other) →
        |magnitude (k * leadingBit + m) - q| < |magnitude other - q| := by
    intro other hother
    obtain ⟨j, hj, hjk, hfar⟩ := exists_nearer_end hq hx hx' hother
    exact (hinside hj hjk).trans_lt hfar
  constructor
  · intro other
    rcases units_cases k other with ⟨j, rfl, hj, hjk⟩ | hother
    · exact hinside hj hjk
    · exact (houtside hother).le
  · intro other hne hsame
    rcases units_cases k other with ⟨j, rfl, hj, hjk⟩ | hother
    · rw [abs_magnitude_sub hq hm hk, abs_magnitude_sub hq hj hjk] at hsame
      have hhalf := (abs_sub_le_of_whole hnear j).2 (fun heq => hne (heq ▸ rfl))
        (mul_right_cancel₀ hunit.ne' hsame)
      have hleading : Even leadingBit := by decide
      exact (hleading.mul_left k).add (htie hhalf)
    · exact absurd hsame (houtside hother).ne'

end

/-! ## 4. Rounding a quotient -/

theorem scaled_pos {num den : ℕ} (hnum : 0 < num) (hden : 0 < den) (e : ℤ) :
    0 < (scaled num den e).1 ∧ 0 < (scaled num den e).2 := by
  simp [scaled, Nat.shiftLeft_eq, hnum, hden]

/-- A positive number lies between the powers of two of its length. -/
theorem log2_bounds {n : ℕ} (h : 0 < n) :
    (2 : ℚ) ^ (n.log2 : ℤ) ≤ n ∧ (n : ℚ) < 2 ^ (n.log2 + 1 : ℤ) := by
  constructor
  · exact_mod_cast Nat.log2_self_le h.ne'
  · exact_mod_cast Nat.lt_log2_self

/-- **The quotient lies in the binade of its logarithm.** -/
theorem floorLog2_bounds {num den : ℕ} (hnum : 0 < num) (hden : 0 < den) :
    (2 : ℚ) ^ floorLog2 num den ≤ num / den ∧ (num : ℚ) / den < 2 ^ (floorLog2 num den + 1) := by
  have hden' : (0 : ℚ) < den := Nat.cast_pos.mpr hden
  obtain ⟨hnlow, hnhigh⟩ := log2_bounds hnum
  obtain ⟨hdlow, hdhigh⟩ := log2_bounds hden
  -- by the lengths of both numbers it is one of two neighbouring binades
  have hlow : (2 : ℚ) ^ ((num.log2 : ℤ) - den.log2 - 1) ≤ num / den := by
    rw [sub_sub, zpow_sub₀ two_ne_zero]
    exact div_le_div₀ (Nat.cast_nonneg _) hnlow hden' hdhigh.le
  have hhigh : (num : ℚ) / den < 2 ^ ((num.log2 : ℤ) - den.log2 + 1) := by
    rw [sub_add_eq_add_sub, zpow_sub₀ two_ne_zero]
    exact div_lt_div₀ hnhigh hdlow (by positivity) (by positivity)
  -- and the scaled quotient says which
  have hcompare : (scaled num den ((num.log2 : ℤ) - den.log2)).2 ≤
      (scaled num den ((num.log2 : ℤ) - den.log2)).1 ↔
        (2 : ℚ) ^ ((num.log2 : ℤ) - den.log2) ≤ num / den := by
    have hpos : (0 : ℚ) < (scaled num den ((num.log2 : ℤ) - den.log2)).2 :=
      Nat.cast_pos.mpr (scaled_pos hnum hden _).2
    rw [← one_le_div₀ (by positivity : (0 : ℚ) < 2 ^ ((num.log2 : ℤ) - den.log2)),
      ← scaled_quotient, one_le_div₀ hpos, Nat.cast_le]
  rw [floorLog2]
  simp only [hcompare]
  split_ifs with hge
  · exact ⟨hge, hhigh⟩
  · rw [sub_add_cancel]
    exact ⟨hlow, not_le.mp hge⟩

/-- A tie is rounded to an even number. -/
theorem even_roundDiv_of_half (num : ℕ) {den : ℕ} (h : 0 < den)
    (hhalf : |(roundDiv .toEven num den : ℚ) - num / den| = 1 / 2) :
    Even (roundDiv .toEven num den) := by
  have hnonneg : (0 : ℚ) ≤ num / den := by positivity
  obtain ⟨k, hk⟩ : ∃ k : ℕ, (num : ℚ) / den = k + 1 / 2 := by
    rcases abs_choice ((roundDiv .toEven num den : ℚ) - num / den) with habs | habs
    · have hpos : 1 ≤ roundDiv .toEven num den := by
        have : (0 : ℚ) < roundDiv .toEven num den := by linarith
        exact_mod_cast this
      refine ⟨roundDiv .toEven num den - 1, ?_⟩
      rw [Nat.cast_sub hpos, Nat.cast_one]
      linarith
    · exact ⟨roundDiv .toEven num den, by linarith⟩
  rw [roundDiv_toEven_of_half h hk]
  split_ifs with heven
  · exact heven
  · exact (Nat.not_even_iff_odd.mp heven).add_one

/-- The unit leaves 53 bits before the point, or fewer if there is no smaller one. -/
theorem unitExponent_bounds {num den : ℕ} (hnum : 0 < num) (hden : 0 < den) :
    (num : ℚ) / den / 2 ^ unitExponent num den < 2 * leadingBit ∧
      ((leadingBit : ℚ) ≤ num / den / 2 ^ unitExponent num den ∨ unitExponent num den = -1074) := by
  obtain ⟨hlow, hhigh⟩ := floorLog2_bounds hnum hden
  have hunit : (0 : ℚ) < 2 ^ unitExponent num den := by positivity
  have hleading : (leadingBit : ℚ) = 2 ^ (52 : ℤ) := by norm_num [leadingBit]
  rw [hleading, div_lt_iff₀ hunit, le_div_iff₀ hunit, ← zpow_one_add₀ two_ne_zero,
    ← zpow_add₀ two_ne_zero, ← zpow_add₀ two_ne_zero]
  constructor
  · refine hhigh.trans_le (zpow_le_zpow_right₀ one_le_two ?_)
    have : floorLog2 num den - 52 ≤ unitExponent num den := le_max_left _ _
    omega
  · rcases max_choice (floorLog2 num den - 52) (-1074) with hnormal | hsubnormal
    · refine Or.inl ?_
      rw [unitExponent, hnormal, add_sub_cancel]
      exact hlow
    · exact Or.inr hsubnormal

theorem isNearest_zero : IsNearest 0 0 := by
  have h := isNearest_of_units (q := 0) (x := 0) (k := 0) (m := 0) (zero_mul _).symm
    (by positivity) (Or.inr rfl) (by norm_num) (by norm_num)
  rwa [Nat.zero_mul] at h

/-- **The bits of a quotient are its nearest bits**, or those of infinity if these are larger. -/
theorem exists_isNearest (num : ℕ) {den : ℕ} (hden : 0 < den) :
    ∃ bits, IsNearest (num / den) bits ∧ magnitudeBits num den = min bits infinityBits := by
  rcases Nat.eq_zero_or_pos num with rfl | hnum
  · refine ⟨0, ?_, (magnitudeBits_zero den).trans (Nat.zero_min _).symm⟩
    rw [Nat.cast_zero, zero_div]
    exact isNearest_zero
  · obtain ⟨hx, hx'⟩ := unitExponent_bounds hnum hden
    have hpos := (scaled_pos hnum hden (unitExponent num den)).2
    have hnear := abs_roundDiv_sub_le .toEven (scaled num den (unitExponent num den)).1 hpos
    have htie := even_roundDiv_of_half (scaled num den (unitExponent num den)).1 hpos
    rw [scaled_quotient] at hnear htie
    have hfield : ((unitExponent num den + 1074).toNat : ℤ) - 1074 = unitExponent num den := by
      have : -1074 ≤ unitExponent num den := le_max_right _ _
      omega
    refine ⟨_, isNearest_of_units (k := (unitExponent num den + 1074).toNat) ?_ hx.le
      (hx'.imp_right fun h => by rw [h]; rfl) hnear htie, ?_⟩
    · rw [hfield, div_mul_cancel₀]
      positivity
    · rw [magnitudeBits, if_neg hnum.ne']

/-! ## 5. Rounding -/

/-- A number keeps its bits, those of NaN apart. -/
theorem toNat_toBits_ofBits (negative : Bool) {bits : ℕ} (h : bits ≤ infinityBits) :
    (Float.ofBits (UInt64.ofNat (signedBits negative bits))).toBits.toNat =
      signedBits negative bits := by
  have hlt : bits < signBit := h.trans_lt (by decide)
  obtain ⟨-, hexponent, hrest⟩ := fields_signedBits negative hlt
  have hsize : signedBits negative bits < 2 ^ 64 := by
    unfold signedBits signBit at *
    split <;> omega
  have hnat : (UInt64.ofNat (signedBits negative bits)).toNat = signedBits negative bits :=
    UInt64.toNat_ofNat_of_lt' hsize
  have hnan : @Float.Model.UnpackedFloat.isNaNBits .binary64
      (UInt64.ofNat (signedBits negative bits)).toBitVec = false := by
    rw [Float.Model.UnpackedFloat.isNaNBits, decide_eq_false_iff_not,
      Float.Model.UnpackedFloat.unpackExponent_def, Float.Model.UnpackedFloat.unpackMantissa_def]
    rintro ⟨hspecial, hfraction⟩
    have hspecial' := congrArg BitVec.toNat hspecial
    have hfraction' := mt BitVec.toNat_inj.mp hfraction
    rw [BitVec.extractLsb'_toNat, UInt64.toNat_toBitVec, hnat] at hspecial' hfraction'
    simp [Float.Model.Format.binary64, Nat.shiftRight_eq_div_pow] at hspecial' hfraction'
    -- the special exponent with a fraction is beyond the bits of infinity
    unfold infinityBits specialField leadingBit at *
    omega
  have hpack : (Float.ofBits (UInt64.ofNat (signedBits negative bits))).toBits.toBitVec = _ :=
    @Float.Model.UnpackedFloat.pack_unpack .binary64
      (UInt64.ofNat (signedBits negative bits)).toBitVec (by decide)
  rw [hnan, if_neg Bool.false_ne_true] at hpack
  rw [← UInt64.toNat_toBitVec, hpack, UInt64.toNat_toBitVec, hnat]

/-- The number `x` is `q` rounded: to the nearest bits, ties to even, and to infinity if these
are past the largest finite number. -/
def Rounds (q : ℚ) (x : Float) : Prop :=
  ∃ bits, IsNearest q bits ∧ x.toBits.toNat = min bits infinityBits

/-- **Rounding is a function.** -/
theorem Rounds.unique {q : ℚ} {x y : Float} (hx : Rounds q x) (hy : Rounds q y) : x = y := by
  obtain ⟨bits, hbits, hx⟩ := hx
  obtain ⟨bits', hbits', hy⟩ := hy
  rw [hbits.unique hbits', ← hy] at hx
  exact Float.toBits_inj.mp (UInt64.toNat_inj.mp hx)

/-- **A quotient is rounded.** -/
theorem rounds_nearest (num : ℕ) {den : ℕ} (h : 0 < den) :
    Rounds (num / den) (nearest false num den) := by
  obtain ⟨bits, hbits, hmagnitude⟩ := exists_isNearest num h
  refine ⟨bits, hbits, ?_⟩
  have hkept := toNat_toBits_ofBits false (magnitudeBits_le num den)
  rw [← hmagnitude, nearest]
  simpa [signedBits] using hkept

/-! ## 6. Rounding with a sign -/

/-- The number `x` is `q` rounded with its sign: the sign bit is set in front of a negative
number, and the other bits are those that the magnitude of `q` is rounded to. -/
def RoundsWithSign (q : ℚ) (x : Float) : Prop :=
  ∃ bits, IsNearest |q| bits ∧ x.toBits.toNat = signedBits (q < 0) (min bits infinityBits)

theorem RoundsWithSign.rounds {q : ℚ} {x : Float} (h : RoundsWithSign q x) (hq : 0 ≤ q) :
    Rounds q x := by
  obtain ⟨bits, hbits, hx⟩ := h
  rw [abs_of_nonneg hq] at hbits
  rw [decide_eq_false (not_lt.mpr hq), signedBits, if_neg Bool.false_ne_true, Nat.zero_add] at hx
  exact ⟨bits, hbits, hx⟩

/-- **Every rational number is rounded**, with its sign. -/
theorem roundsWithSign_ofRat (r : ℚ) : RoundsWithSign r (ofRat r) := by
  have hmagnitude : (r.num.natAbs : ℚ) / r.den = |r| := by
    rw [Nat.cast_natAbs, Int.cast_abs, ← Nat.abs_cast r.den, ← abs_div, r.num_div_den]
  obtain ⟨bits, hbits, hmin⟩ := exists_isNearest r.num.natAbs r.den_pos
  rw [hmagnitude] at hbits
  refine ⟨bits, hbits, ?_⟩
  rw [← hmin, ← toNat_toBits_ofBits _ (magnitudeBits_le _ _)]
  simp only [ofRat, nearest, signedBits, Rat.num_neg]

/-- A rational number without a sign is rounded. -/
theorem rounds_ofRat {r : ℚ} (h : 0 ≤ r) : Rounds r (ofRat r) := (roundsWithSign_ofRat r).rounds h

/-- Distances between numbers of one sign are those of their magnitudes. -/
theorem abs_signed_sub {q m : ℚ} : |(if q < 0 then -1 else 1) * m - q| = |m - (|q|)| := by
  split_ifs with hq
  · rw [abs_of_neg hq, ← abs_neg]
    ring_nf
  · rw [abs_of_nonneg (not_lt.mp hq), one_mul]

/-- **No finite number is nearer** than the one that is rounded to, of either sign. -/
theorem RoundsWithSign.abs_sub_le {q x' y' : ℚ} {x y : Float} (h : RoundsWithSign q x)
    (hx : (datum x).rational? = some x') (hy : (datum y).rational? = some y') :
    |x' - q| ≤ |y' - q| := by
  obtain ⟨bits, hbits, hword⟩ := h
  obtain ⟨negative, b, hxword, hb, rfl⟩ := exists_of_rational? hx
  obtain ⟨negative', b', -, -, rfl⟩ := exists_of_rational? hy
  have hlimit : infinityBits < signBit := by decide
  obtain ⟨rfl, hmin⟩ := signedBits_inj (hb.trans hlimit) (by omega) (hxword.symm.trans hword)
  obtain rfl : b = bits := by omega
  have hmagnitude : |(if negative' then -1 else 1) * magnitude b'| = magnitude b' := by
    rw [abs_mul, abs_of_nonneg (magnitude_nonneg b')]
    split_ifs <;> simp
  calc |(if decide (q < 0) = true then -1 else 1) * magnitude b - q|
      = |magnitude b - (|q|)| := by rw [← abs_signed_sub]; simp only [decide_eq_true_eq]
    _ ≤ |magnitude b' - (|q|)| := hbits.le b'
    _ = |(|(if negative' then -1 else 1) * magnitude b'|) - (|q|)| := by rw [hmagnitude]
    _ ≤ |(if negative' then -1 else 1) * magnitude b' - q| := abs_abs_sub_abs_le _ _

end PostfixCalculator.Binary64
