/-
# Rounding, and the text of a rounded number

`roundDiv tie num den` is the whole number nearest to `num / den`.  A quotient halfway between
two whole numbers goes where `tie` says.  One function serves the rounding to a fixed number
of decimals and the rounding to a binary significand.

A rounded magnitude is a count of units, `scale` of which make one.  Its text has the whole
part, then, when places are asked for, a point and the rest, filled up with zeros on the left.
A minus sign stands in front of a negative number that does not round to zero, so that `-0.00`
is never written.
-/

namespace PostfixCalculator

/-! ## 1. Rounding a quotient -/

/-- Where a half goes. -/
inductive Tie where
  /-- To the even neighbour. -/
  | toEven
  /-- To the larger neighbour, of quotients that are never negative. -/
  | awayFromZero
deriving DecidableEq

/-- Does a half above `q` go up? -/
def Tie.roundsUp : Tie → Nat → Bool
  | toEven, q => q % 2 == 1
  | awayFromZero, _ => true

/-- The whole number nearest to `num / den`. -/
def roundDiv (tie : Tie) (num den : Nat) : Nat :=
  let q := num / den
  let twice := 2 * (num % den)
  if twice < den then q
  else if den < twice then q + 1
  else if tie.roundsUp q then q + 1 else q

/-- Down goes a remainder of at most a half, up one of at least a half. -/
theorem roundDiv_cases (tie : Tie) (num den : Nat) :
    roundDiv tie num den = num / den ∧ 2 * (num % den) ≤ den ∨
      roundDiv tie num den = num / den + 1 ∧ den ≤ 2 * (num % den) := by
  unfold roundDiv
  grind

/-- A whole quotient stays as it is. -/
theorem roundDiv_mul_left (tie : Tie) (q : Nat) {den : Nat} (h : 0 < den) :
    roundDiv tie (q * den) den = q := by
  simp [roundDiv, Nat.mul_div_cancel _ h, h]

/-- The rounded quotient is at most half a unit above. -/
theorem two_mul_roundDiv_mul_le (tie : Tie) (num den : Nat) :
    2 * (roundDiv tie num den * den) ≤ 2 * num + den := by
  have hdiv : num / den * den + num % den = num := Nat.div_add_mod' num den
  rcases roundDiv_cases tie num den with ⟨hq, hr⟩ | ⟨hq, hr⟩ <;> rw [hq]
  · omega
  · have hup : (num / den + 1) * den = num / den * den + den := Nat.add_one_mul _ _
    omega

/-- The rounded quotient is at most half a unit below. -/
theorem two_mul_le_roundDiv_mul (tie : Tie) (num : Nat) {den : Nat} (h : 0 < den) :
    2 * num ≤ 2 * (roundDiv tie num den * den) + den := by
  have hdiv : num / den * den + num % den = num := Nat.div_add_mod' num den
  have hlt : num % den < den := Nat.mod_lt num h
  rcases roundDiv_cases tie num den with ⟨hq, hr⟩ | ⟨hq, hr⟩ <;> rw [hq]
  · omega
  · have hup : (num / den + 1) * den = num / den * den + den := Nat.add_one_mul _ _
    omega

/-- A half goes where the tie rule says. -/
theorem roundDiv_of_half (tie : Tie) {num den : Nat} (h : 2 * (num % den) = den) :
    roundDiv tie num den = if tie.roundsUp (num / den) then num / den + 1 else num / den := by
  unfold roundDiv
  simp [h]

/-! ## 2. Fixed-point text -/

/-- One unit has this many parts when it is cut to `n` places. -/
def powerOfTen (n : Nat) : Nat := Nat.pow 10 n

theorem powerOfTen_pos (n : Nat) : 0 < powerOfTen n := Nat.pow_pos (by decide)

/-- The sign in front of `units` units. -/
def signText (negative : Bool) (units : Nat) : List Char :=
  if negative && units != 0 then ['-'] else []

/-- The digits after the point, with the point. -/
def fractionText (places rest : Nat) : List Char :=
  if places = 0 then [] else '.' :: (Nat.toDigits 10 rest).leftpad places '0'

/-- The text of `units / scale` with `places` digits after the point. -/
def fixedText (negative : Bool) (scale places units : Nat) : String :=
  String.ofList <|
    signText negative units ++ Nat.toDigits 10 (units / scale) ++
      fractionText places (units % scale)

@[simp] theorem signText_zero (negative : Bool) : signText negative 0 = [] := by
  simp [signText]

theorem fixedText_zero (negative : Bool) (scale places : Nat) :
    fixedText negative scale places 0 = fixedText false scale places 0 := by
  simp [fixedText]

end PostfixCalculator
