/-
# Fixed-point notation

A number in fixed-point notation has the digits of its whole part, without a zero in front
that could be left out, then a point and as many digits as there are places, and in front of
all that a minus sign or none (`Decimal`).  Without places there is no point.

The number that a text denotes is read off the text alone, from what stands before and behind
the point and from the sign (`Numeral.signedValue`).  A count of units is written in this
notation (`Decimal.ofUnits`), and what is written denotes the count over the scale
(`signedValue_fixedText`).  No number has two notations with the same places
(`Decimal.magnitude_eq_iff`).
-/
import PostfixCalculator.Proofs.Number.FixedPoint
import PostfixCalculator.Proofs.Number.Numeral

namespace PostfixCalculator

/-! ## 1. The notation -/

/-- A number in fixed-point notation. -/
structure Decimal (places : ℕ) where
  /-- Is there a minus sign? -/
  negative : Bool
  /-- The digits before the point. -/
  whole : List Char
  /-- The digits behind it. -/
  fraction : List Char
  isDigit_whole : ∀ c ∈ whole, c.isDigit = true
  whole_ne_nil : whole ≠ []
  /-- There is no zero in front of other digits. -/
  whole_eq_zero : whole.head? = some '0' → whole = ['0']
  isDigit_fraction : ∀ c ∈ fraction, c.isDigit = true
  length_fraction : fraction.length = places

namespace Decimal

variable {places : ℕ}

/-- What stands behind the sign. -/
def magnitude (d : Decimal places) : List Char :=
  d.whole ++ if places = 0 then [] else '.' :: d.fraction

/-- The text of the notation. -/
def text (d : Decimal places) : String :=
  String.ofList ((if d.negative then ['-'] else []) ++ d.magnitude)

/-- The other sign in front of the same digits. -/
def flip (d : Decimal places) : Decimal places := { d with negative := !d.negative }

end Decimal

/-- The text with its minus sign taken away, or with one put in front if there is none. -/
def flipSign (text : String) : String :=
  match text.toList with
  | '-' :: rest => String.ofList rest
  | chars => String.ofList ('-' :: chars)

/-- The number that a numeral denotes, with a minus sign in front of it or without. -/
def Numeral.signedValue (text : String) : ℚ :=
  match text.toList with
  | '-' :: rest => -value (String.ofList rest)
  | _ => value text

/-! ## 2. Reading the notation -/

namespace Decimal

variable {places : ℕ} (d : Decimal places)

/-- A magnitude begins with a digit, and so not with a sign. -/
theorem head?_magnitude_ne : d.magnitude.head? ≠ some '-' := by
  obtain ⟨c, rest, hwhole⟩ := List.exists_cons_of_ne_nil d.whole_ne_nil
  rw [magnitude, hwhole, List.cons_append, List.head?_cons]
  intro h
  obtain rfl : c = '-' := Option.some.inj h
  exact absurd (d.isDigit_whole _ (hwhole ▸ List.mem_cons_self)) (by decide)

theorem magnitude_ne_cons_minus (rest : List Char) : d.magnitude ≠ '-' :: rest :=
  fun h => d.head?_magnitude_ne (congrArg List.head? h)

theorem toList_text : d.text.toList = (if d.negative then ['-'] else []) ++ d.magnitude := by
  rw [text, String.toList_ofList]

theorem toList_text_of_negative (h : d.negative = true) : d.text.toList = '-' :: d.magnitude := by
  rw [toList_text, if_pos h, List.singleton_append]

theorem toList_text_of_not_negative (h : d.negative = false) : d.text.toList = d.magnitude := by
  rw [toList_text, h, if_neg Bool.false_ne_true, List.nil_append]

theorem head?_text_iff : d.text.toList.head? = some '-' ↔ d.negative = true := by
  cases hd : d.negative with
  | true => simp [d.toList_text_of_negative hd]
  | false => simp [d.toList_text_of_not_negative hd, d.head?_magnitude_ne]

theorem flipSign_text : flipSign d.text = d.flip.text := by
  cases hd : d.negative with
  | true =>
    have hflip : d.flip.text = String.ofList d.magnitude := by simp [text, flip, hd, magnitude]
    rw [flipSign, d.toList_text_of_negative hd, hflip]
    rfl
  | false =>
    have hflip : d.flip.text = String.ofList ('-' :: d.magnitude) := by
      simp [text, flip, hd, magnitude]
    rw [flipSign, d.toList_text_of_not_negative hd, hflip]
    split
    · exact absurd ‹_› (d.magnitude_ne_cons_minus _)
    · rfl

/-- The point ends the digits in front of it. -/
theorem whole_fraction_magnitude : Numeral.whole (String.ofList d.magnitude) = d.whole ∧
    Numeral.fraction (String.ofList d.magnitude) = d.fraction := by
  have hwhole : ∀ c ∈ d.whole, (c != '.') = true := by
    intro c hc
    rw [bne_iff_ne]
    rintro rfl
    exact absurd (d.isDigit_whole _ hc) (by decide)
  rw [Numeral.whole, Numeral.fraction, String.toList_ofList, magnitude,
    List.takeWhile_append_of_pos hwhole, List.dropWhile_append_of_pos hwhole]
  split_ifs with hplaces
  · have hnone : d.fraction = [] := List.eq_nil_of_length_eq_zero (d.length_fraction.trans hplaces)
    simp [hnone]
  · simp

/-- **The digits on both sides of the point are the number.** -/
theorem value_magnitude : Numeral.value (String.ofList d.magnitude) =
    Nat.ofDigitChars 10 d.whole 0 + Nat.ofDigitChars 10 d.fraction 0 / 10 ^ places := by
  obtain ⟨hwhole, hfraction⟩ := d.whole_fraction_magnitude
  rw [Numeral.value, hwhole, hfraction, d.length_fraction]

/-- **The notation denotes its digits, with its sign.** -/
theorem signedValue_text : Numeral.signedValue d.text = (if d.negative then -1 else 1) *
    (Nat.ofDigitChars 10 d.whole 0 + Nat.ofDigitChars 10 d.fraction 0 / 10 ^ places) := by
  rw [← value_magnitude, Numeral.signedValue]
  cases hd : d.negative with
  | true =>
    rw [d.toList_text_of_negative hd, if_pos rfl, neg_one_mul]
    rfl
  | false =>
    rw [d.toList_text_of_not_negative hd, if_neg Bool.false_ne_true, one_mul]
    have htext : d.text = String.ofList d.magnitude := by
      rw [← d.toList_text_of_not_negative hd, String.ofList_toList]
    split
    · exact absurd ‹_› (d.magnitude_ne_cons_minus _)
    · rw [htext]

end Decimal

/-! ## 3. Counts of units -/

/-- Zero is the only number whose digits begin with a zero. -/
theorem head?_toDigits_ne {n : ℕ} (h : n ≠ 0) : (Nat.toDigits 10 n).head? ≠ some '0' := by
  induction n using Nat.strong_induction_on with
  | h n ih =>
    rw [Nat.toDigits_eq_if (by decide)]
    split_ifs with hlt
    · have hdigit : ∀ m < 10, m ≠ 0 → [Nat.digitChar m].head? ≠ some '0' := by decide
      exact hdigit n hlt h
    · have hquotient : n / 10 ≠ 0 := Nat.div_ne_zero_iff.mpr ⟨by decide, not_lt.mp hlt⟩
      rw [List.head?_append_of_ne_nil _ Nat.toDigits_ne_nil]
      exact ih (n / 10) (Nat.div_lt_self (Nat.pos_of_ne_zero h) (by decide)) hquotient

namespace Decimal

/-- The notation of a count of units, with a sign or without. -/
def ofUnits (negative : Bool) (places units : ℕ) : Decimal places where
  negative := negative
  whole := Nat.toDigits 10 (units / powerOfTen places)
  fraction := fractionDigits places (units % powerOfTen places)
  isDigit_whole _ hc := Nat.isDigit_of_mem_toDigits (by decide) (by decide) hc
  whole_ne_nil := Nat.toDigits_ne_nil
  whole_eq_zero := by
    intro hhead
    by_cases hwhole : units / powerOfTen places = 0
    · rw [hwhole]
      rfl
    · exact absurd hhead (head?_toDigits_ne hwhole)
  isDigit_fraction := isDigit_of_mem_fractionDigits
  length_fraction := length_fractionDigits (Nat.mod_lt _ (powerOfTen_pos places))

theorem flip_ofUnits (negative : Bool) (places units : ℕ) :
    (ofUnits negative places units).flip = ofUnits (!negative) places units := rfl

/-- **A count of units is written in the notation**, with a sign if some units are left of a
negative number. -/
theorem fixedText_eq (negative : Bool) (places units : ℕ) :
    fixedText negative (powerOfTen places) places units =
      (ofUnits (negative && units != 0) places units).text := by
  have hpoint : fractionText places (units % powerOfTen places) =
      if places = 0 then [] else '.' :: fractionDigits places (units % powerOfTen places) := by
    rw [fractionText, fractionDigits]
    split_ifs <;> rfl
  rw [fixedText, signText, hpoint, List.append_assoc]
  rfl

theorem ofDigitChars_whole (negative : Bool) (places units : ℕ) :
    Nat.ofDigitChars 10 (ofUnits negative places units).whole 0 = units / powerOfTen places :=
  Nat.ofDigitChars_ten_toDigits

theorem ofDigitChars_fraction (negative : Bool) (places units : ℕ) :
    Nat.ofDigitChars 10 (ofUnits negative places units).fraction 0 = units % powerOfTen places :=
  ofDigitChars_fractionDigits (Nat.mod_lt _ (powerOfTen_pos places))

/-- **What is written denotes the count over the scale.** -/
theorem signedValue_fixedText (negative : Bool) (places units : ℕ) :
    Numeral.signedValue (fixedText negative (powerOfTen places) places units) =
      (if negative then -1 else 1) * (units / 10 ^ places) := by
  have hsum : ((units / powerOfTen places : ℕ) : ℚ) +
      ((units % powerOfTen places : ℕ) : ℚ) / 10 ^ places = units / 10 ^ places := by
    have hparts := congrArg (Nat.cast : ℕ → ℚ) (Nat.div_add_mod units (powerOfTen places))
    rw [Nat.cast_add, Nat.cast_mul, cast_powerOfTen] at hparts
    rw [← hparts]
    field_simp
  rw [fixedText_eq, signedValue_text, ofDigitChars_whole, ofDigitChars_fraction, hsum, ofUnits]
  by_cases hunits : units = 0
  · simp [hunits]
  · rw [bne_iff_ne.mpr hunits, Bool.and_true]

end Decimal

/-! ## 4. Zeros -/

/-- The first digit counts the power of ten that the number of the others says. -/
theorem ofDigitChars_cons_eq (c : Char) (cs : List Char) : Nat.ofDigitChars 10 (c :: cs) 0 =
    10 ^ cs.length * (c.toNat - '0'.toNat) + Nat.ofDigitChars 10 cs 0 := by
  rw [Nat.ofDigitChars_cons, Nat.ofDigitChars_eq_ofDigitChars_zero, Nat.mul_zero, Nat.zero_add]

/-- Only zeros make a number that is zero. -/
theorem ofDigitChars_eq_zero_iff {cs : List Char} (h : ∀ c ∈ cs, c.isDigit = true) :
    Nat.ofDigitChars 10 cs 0 = 0 ↔ ∀ c ∈ cs, c = '0' := by
  induction cs with
  | nil => simp
  | cons c cs ih =>
    obtain ⟨hc, hcs⟩ := List.forall_mem_cons.mp h
    have hdigit : c.toNat - '0'.toNat = 0 ↔ c = '0' := by
      rw [← Char.toNat_inj, Nat.sub_eq_zero_iff_le]
      exact ⟨fun hle => Nat.le_antisymm hle (Char.isDigit_iff_toNat.mp hc).1, Nat.le_of_eq⟩
    rw [ofDigitChars_cons_eq, Nat.add_eq_zero_iff, ih hcs, Nat.mul_eq_zero, hdigit,
      List.forall_mem_cons]
    simp

namespace Decimal

variable {places : ℕ}

/-- **Nothing but zeros stands on both sides of the point** of a number that is zero. -/
theorem forall_mem_magnitude_iff (d : Decimal places) :
    (∀ c ∈ d.magnitude, c = '0' ∨ c = '.') ↔
      Nat.ofDigitChars 10 d.whole 0 = 0 ∧ Nat.ofDigitChars 10 d.fraction 0 = 0 := by
  have hzero : ∀ {cs : List Char}, (∀ c ∈ cs, c.isDigit = true) →
      ((∀ c ∈ cs, c = '0' ∨ c = '.') ↔ Nat.ofDigitChars 10 cs 0 = 0) := by
    intro cs hcs
    rw [ofDigitChars_eq_zero_iff hcs]
    refine forall₂_congr fun c hc => or_iff_left ?_
    rintro rfl
    exact absurd (hcs _ hc) (by decide)
  rw [magnitude, List.forall_mem_append, hzero d.isDigit_whole]
  refine and_congr_right' ?_
  split_ifs with hplaces
  · have hnone : d.fraction = [] := List.eq_nil_of_length_eq_zero (d.length_fraction.trans hplaces)
    simp [hnone]
  · rw [List.forall_mem_cons, hzero d.isDigit_fraction]
    exact and_iff_right (Or.inr rfl)

theorem forall_mem_magnitude_ofUnits_iff (negative : Bool) (places units : ℕ) :
    (∀ c ∈ (ofUnits negative places units).magnitude, c = '0' ∨ c = '.') ↔ units = 0 := by
  rw [forall_mem_magnitude_iff, ofDigitChars_whole, ofDigitChars_fraction]
  constructor
  · rintro ⟨hwhole, hfraction⟩
    rw [← Nat.div_add_mod units (powerOfTen places), hwhole, hfraction, Nat.mul_zero]
  · rintro rfl
    exact ⟨Nat.zero_div _, Nat.zero_mod _⟩

end Decimal

/-! ## 5. One notation for a number -/

theorem ofDigitChars_lt {cs : List Char} (h : ∀ c ∈ cs, c.isDigit = true) :
    Nat.ofDigitChars 10 cs 0 < 10 ^ cs.length := by
  induction cs with
  | nil => decide
  | cons c cs ih =>
    obtain ⟨hc, hcs⟩ := List.forall_mem_cons.mp h
    have hdigit : c.toNat - '0'.toNat ≤ 9 := by
      have hle : c.toNat ≤ '9'.toNat := (Char.isDigit_iff_toNat.mp hc).2
      have hvalues : '9'.toNat = '0'.toNat + 9 := by decide
      omega
    calc Nat.ofDigitChars 10 (c :: cs) 0
        = 10 ^ cs.length * (c.toNat - '0'.toNat) + Nat.ofDigitChars 10 cs 0 :=
          ofDigitChars_cons_eq c cs
      _ < 10 ^ cs.length * 9 + 10 ^ cs.length :=
          Nat.add_lt_add_of_le_of_lt (Nat.mul_le_mul_left _ hdigit) (ih hcs)
      _ = 10 ^ (c :: cs).length := by rw [List.length_cons, Nat.pow_succ, ← Nat.mul_succ]

/-- **Digits of one length are their number.** -/
theorem eq_of_ofDigitChars_eq {cs cs' : List Char} (h : ∀ c ∈ cs, c.isDigit = true)
    (h' : ∀ c ∈ cs', c.isDigit = true) (hlength : cs.length = cs'.length)
    (heq : Nat.ofDigitChars 10 cs 0 = Nat.ofDigitChars 10 cs' 0) : cs = cs' := by
  induction cs generalizing cs' with
  | nil => exact (List.eq_nil_of_length_eq_zero hlength.symm).symm
  | cons c cs ih =>
    cases cs' with
    | nil => exact absurd hlength (Nat.succ_ne_zero _)
    | cons c' cs' =>
      obtain ⟨hc, hcs⟩ := List.forall_mem_cons.mp h
      obtain ⟨hc', hcs'⟩ := List.forall_mem_cons.mp h'
      have hlength' : cs.length = cs'.length := Nat.succ_inj.mp hlength
      have hlt := ofDigitChars_lt hcs
      have hlt' := ofDigitChars_lt hcs'
      rw [ofDigitChars_cons_eq, ofDigitChars_cons_eq, ← hlength'] at heq
      rw [← hlength'] at hlt'
      -- the first digit is the quotient by the power of ten, and the others are the rest
      obtain ⟨hfirst, hrest⟩ := mul_add_div_mod (c.toNat - '0'.toNat) hlt
      obtain ⟨hfirst', hrest'⟩ := mul_add_div_mod (c'.toNat - '0'.toNat) hlt'
      rw [heq, hfirst'] at hfirst
      rw [heq, hrest'] at hrest
      have hvalue := (Char.isDigit_iff_toNat.mp hc).1
      have hvalue' := (Char.isDigit_iff_toNat.mp hc').1
      rw [ih hcs hcs' hlength' hrest.symm, Char.toNat_inj.mp (by omega : c.toNat = c'.toNat)]

/-- Without zeros in front, also digits of two lengths are their number. -/
theorem eq_of_head?_ne {cs cs' : List Char} (h : ∀ c ∈ cs, c.isDigit = true)
    (h' : ∀ c ∈ cs', c.isDigit = true) (hne : cs ≠ []) (hzero : cs'.head? = some '0' → cs' = ['0'])
    (hlength : cs.length ≤ cs'.length)
    (heq : Nat.ofDigitChars 10 cs 0 = Nat.ofDigitChars 10 cs' 0) : cs = cs' := by
  have hpadded : cs.leftpad cs'.length '0' = cs' := by
    refine eq_of_ofDigitChars_eq ?_ h' ?_ ?_
    · rw [List.leftpad]
      exact List.forall_mem_append.mpr ⟨isDigit_of_mem_zeros, h⟩
    · rw [List.length_leftpad, Nat.max_eq_left hlength]
    · rw [List.leftpad, Nat.ofDigitChars_append, Nat.ofDigitChars_replicate_zero, Nat.mul_zero, heq]
  rw [List.leftpad] at hpadded
  rcases Nat.eq_zero_or_pos (cs'.length - cs.length) with hsame | hlonger
  · rwa [hsame, List.replicate_zero, List.nil_append] at hpadded
  · -- a zero that fills up is in front of other digits
    have hhead : cs'.head? = some '0' := by
      rw [← hpadded, List.head?_append_of_ne_nil _ (by simp; omega), List.head?_replicate,
        if_neg (Nat.ne_of_gt hlonger)]
    have hone : cs'.length = 1 := congrArg List.length (hzero hhead)
    have hpos : 0 < cs.length := List.length_pos_of_ne_nil hne
    omega

namespace Decimal

variable {places : ℕ}

/-- **Every number has one notation.** -/
theorem magnitude_eq_iff (d d' : Decimal places) : d.magnitude = d'.magnitude ↔
    Nat.ofDigitChars 10 d.whole 0 = Nat.ofDigitChars 10 d'.whole 0 ∧
      Nat.ofDigitChars 10 d.fraction 0 = Nat.ofDigitChars 10 d'.fraction 0 := by
  constructor
  · intro h
    obtain ⟨hwhole, hfraction⟩ := d.whole_fraction_magnitude
    rw [h, d'.whole_fraction_magnitude.1] at hwhole
    rw [h, d'.whole_fraction_magnitude.2] at hfraction
    rw [hwhole, hfraction]
    exact ⟨rfl, rfl⟩
  · rintro ⟨hwhole, hfraction⟩
    have hwhole' : d.whole = d'.whole := by
      rcases Nat.le_total d.whole.length d'.whole.length with hle | hle
      · exact eq_of_head?_ne d.isDigit_whole d'.isDigit_whole d.whole_ne_nil d'.whole_eq_zero hle
          hwhole
      · exact (eq_of_head?_ne d'.isDigit_whole d.isDigit_whole d'.whole_ne_nil d.whole_eq_zero hle
          hwhole.symm).symm
    have hfraction' : d.fraction = d'.fraction :=
      eq_of_ofDigitChars_eq d.isDigit_fraction d'.isDigit_fraction
        (d.length_fraction.trans d'.length_fraction.symm) hfraction
    rw [magnitude, magnitude, hwhole', hfraction']

theorem text_eq_iff {d d' : Decimal places} (h : d.negative = false)
    (h' : d'.negative = false) : d.text = d'.text ↔ d.magnitude = d'.magnitude := by
  rw [← String.toList_inj, d.toList_text_of_not_negative h, d'.toList_text_of_not_negative h']

end Decimal

end PostfixCalculator
