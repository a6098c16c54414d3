/-
# Exact arithmetic computes in the rational numbers

In the field of the rational numbers every expression has a value, for there a quotient by
zero is zero (`Expr.value`).  That value means something as long as no divisor in the
expression is zero (`Expr.Defined`).

* Where one is zero, some division has a divisor that is defined and is zero: one that has no
  other such division inside its divisor (`Expr.not_defined_iff`).
* In exact arithmetic the recursion on the tree finds the value of an expression that is
  defined, and of no other (`Expr.eval_of_defined`, `Expr.eval_of_not_defined`).

So a calculation fails at such a division, wherever in the expression it is, and otherwise
shows the value in the field (`exact_calculation_is_rational`).
-/
import PostfixCalculator.Proofs.Number.Numeral
import PostfixCalculator.Proofs.Sentence

namespace PostfixCalculator

/-! ## 1. The field -/

/-- The operation of the field. -/
def Operator.rational : Operator → ℚ → ℚ → ℚ
  | plus => (· + ·)
  | minus => (· - ·)
  | times => (· * ·)
  | divide => (· / ·)

namespace Expr

/-- The value of an expression in the field of the rational numbers. -/
def value : Expr → ℚ
  | literal text => Numeral.value text
  | binary o left right => o.rational left.value right.value

/-- No divisor is zero. -/
def Defined : Expr → Prop
  | literal _ => True
  | binary o left right => left.Defined ∧ right.Defined ∧ (o = .divide → right.value ≠ 0)

/-- All literals are numerals, with fewer than `2 ^ 32` digits behind their points. -/
def Legible : Expr → Prop
  | literal text => IsNumeral text ∧ (Numeral.fraction text).length < UInt32.size
  | binary _ left right => left.Legible ∧ right.Legible

instance decidableDefined : (e : Expr) → Decidable e.Defined
  | literal _ => inferInstanceAs (Decidable True)
  | binary o left right =>
    have := decidableDefined left
    have := decidableDefined right
    inferInstanceAs (Decidable (left.Defined ∧ right.Defined ∧ (o = .divide → right.value ≠ 0)))

instance decidableLegible : (e : Expr) → Decidable e.Legible
  | literal text =>
    inferInstanceAs (Decidable
      (IsNumeral text ∧ (Numeral.fraction text).length < UInt32.size))
  | binary _ left right =>
    have := decidableLegible left
    have := decidableLegible right
    inferInstanceAs (Decidable (left.Legible ∧ right.Legible))

/-- One expression is a part of another one, or all of it. -/
inductive Within (part : Expr) : Expr → Prop where
  | all : Within part part
  | left {l : Expr} (o : Operator) (r : Expr) : Within part l → Within part (binary o l r)
  | right {r : Expr} (o : Operator) (l : Expr) : Within part r → Within part (binary o l r)

/-- Somewhere stands a division whose divisor is defined, and is zero. -/
def DividesByZero (e : Expr) : Prop :=
  ∃ l r, Within (binary .divide l r) e ∧ r.Defined ∧ r.value = 0

/-! ## 2. Divisions by zero -/

variable {e part : Expr}

/-- A part of what is defined is defined. -/
theorem Within.defined (h : Within part e) (he : e.Defined) : part.Defined := by
  induction h with
  | all => exact he
  | left o r _ ih => exact ih he.1
  | right o l _ ih => exact ih he.2.1

/-- If both operands are defined, it is their operator that makes an expression undefined. -/
theorem divisor_of_not_defined {o : Operator} {left right : Expr} (hl : left.Defined)
    (hr : right.Defined) (h : ¬ (binary o left right).Defined) :
    o = .divide ∧ right.value = 0 := by
  simpa [Defined, hl, hr] using h

/-- **An expression is undefined where it divides by zero**, and the divisor can be taken to be
defined. -/
theorem not_defined_iff : ¬ e.Defined ↔ e.DividesByZero := by
  constructor
  · intro h
    induction e with
    | literal text => exact absurd trivial h
    | binary o left right ihl ihr =>
      by_cases hl : left.Defined
      · by_cases hr : right.Defined
        · obtain ⟨rfl, hzero⟩ := divisor_of_not_defined hl hr h
          exact ⟨left, right, .all, hr, hzero⟩
        · obtain ⟨l, r, hwithin, hdivisor⟩ := ihr hr
          exact ⟨l, r, hwithin.right o left, hdivisor⟩
      · obtain ⟨l, r, hwithin, hdivisor⟩ := ihl hl
        exact ⟨l, r, hwithin.left o right, hdivisor⟩
  · rintro ⟨l, r, hwithin, -, hzero⟩ he
    exact (hwithin.defined he).2.2 rfl hzero

theorem Defined.not_dividesByZero (h : e.Defined) : ¬ e.DividesByZero :=
  fun hzero => not_defined_iff.mpr hzero h

end Expr

/-! ## 3. Evaluation -/

/-- An exact operator is that of the field, but for a division by zero. -/
theorem Exact.apply_eq_ok {o : Operator} {x y : ℚ} (h : o = .divide → y ≠ 0) :
    Exact.apply o x y = .ok (o.rational x y) := by
  cases o with
  | plus => rfl
  | minus => rfl
  | times => rfl
  | divide => exact if_neg (h rfl)

namespace Expr

variable {e : Expr}

/-- **What is defined has its value in the field.** -/
theorem eval_of_defined (hlegible : e.Legible) (h : e.Defined) :
    (e.eval : Except CalcError ℚ) = .ok e.value := by
  induction e with
  | literal text => exact Numeral.ofText_eq_value hlegible.1 hlegible.2
  | binary o left right ihl ihr =>
    rw [eval, ihl hlegible.1 h.1, ok_bind, ihr hlegible.2 h.2.1, ok_bind]
    exact Exact.apply_eq_ok h.2.2

/-- **What is not defined has no value.**  The evaluation comes to a division by zero, and to
nothing else before it. -/
theorem eval_of_not_defined (hlegible : e.Legible) (h : ¬ e.Defined) :
    (e.eval : Except CalcError ℚ) = .error .divisionByZero := by
  induction e with
  | literal text => exact absurd trivial h
  | binary o left right ihl ihr =>
    by_cases hl : left.Defined
    · rw [eval, eval_of_defined hlegible.1 hl, ok_bind]
      by_cases hr : right.Defined
      · rw [eval_of_defined hlegible.2 hr, ok_bind]
        obtain ⟨ho, hzero⟩ := divisor_of_not_defined hl hr h
        exact Exact.apply_eq_error_iff.mpr ⟨ho, hzero, rfl⟩
      · rw [ihr hlegible.2 hr, error_bind]
    · rw [eval, ihl hlegible.1 hl, error_bind]

theorem eval_eq_divisionByZero_iff (hlegible : e.Legible) :
    (e.eval : Except CalcError ℚ) = .error .divisionByZero ↔ e.DividesByZero := by
  rw [← not_defined_iff]
  refine ⟨?_, eval_of_not_defined hlegible⟩
  intro herror h
  rw [eval_of_defined hlegible h] at herror
  exact absurd herror nofun

end Expr

/-! ## 4. Calculations -/

section

variable {settings : Settings} {layout : Layout settings.lexicon} {e : Expr}

/-- The calculation of a sentence in exact arithmetic is an evaluation in the rationals. -/
theorem toAnswer_calculate_exact (h : Writes layout.tokens e) :
    Result.toAnswer <$> calculate { settings with arithmetic := .exact } layout.text =
      Answer.ofNumber settings.decimals <$> (e.eval : Except CalcError ℚ) :=
  toAnswer_calculate_of_writes { settings with arithmetic := .exact } layout h

/-- Without a division by zero the answer is the value in the field. -/
theorem toAnswer_calculate_of_not_dividesByZero (h : Writes layout.tokens e)
    (hlegible : e.Legible) (hzero : ¬ e.DividesByZero) :
    Result.toAnswer <$> calculate { settings with arithmetic := .exact } layout.text =
      .ok (Answer.ofNumber settings.decimals e.value) := by
  rw [← Expr.not_defined_iff, not_not] at hzero
  rw [toAnswer_calculate_exact h, Expr.eval_of_defined hlegible hzero, map_ok]

end

/-- **Exact arithmetic computes in the field of the rational numbers.**  A sentence whose
literals are numerals fails with a division by zero just if a divisor in it is defined and is
zero.  Otherwise its answer is the value of its tree in the field, in binary64 and as text,
and so trees of one value have one answer. -/
theorem exact_calculation_is_rational (settings : Settings) (layout : Layout settings.lexicon)
    {e : Expr} (h : Writes layout.tokens e) (hlegible : e.Legible) :
    (calculate { settings with arithmetic := .exact } layout.text = .error .divisionByZero ↔
        e.DividesByZero) ∧
      (¬ e.DividesByZero → ∃ r,
        calculate { settings with arithmetic := .exact } layout.text = .ok r ∧
          r.value = Binary64.ofRat e.value ∧
          r.display = "=" ++ Exact.fixed settings.decimals e.value) ∧
      ∀ (other : Layout settings.lexicon) (e' : Expr), Writes other.tokens e' → e'.Legible →
        ¬ e.DividesByZero → ¬ e'.DividesByZero → e'.value = e.value →
          Result.toAnswer <$> calculate { settings with arithmetic := .exact } other.text =
            Result.toAnswer <$> calculate { settings with arithmetic := .exact } layout.text := by
  refine ⟨?_, ?_, ?_⟩
  · rw [← Expr.eval_eq_divisionByZero_iff hlegible, ← map_eq_error_iff,
      toAnswer_calculate_exact h, map_eq_error_iff]
  · intro hzero
    obtain ⟨r, hr, hanswer⟩ :=
      map_eq_ok_iff.mp (toAnswer_calculate_of_not_dividesByZero h hlegible hzero)
    exact ⟨r, hr, congrArg Answer.value hanswer, congrArg Answer.display hanswer⟩
  · intro other e' h' hlegible' hzero hzero' hvalue
    rw [toAnswer_calculate_of_not_dividesByZero h' hlegible' hzero', hvalue,
      toAnswer_calculate_of_not_dividesByZero h hlegible hzero]

namespace Expr

/-- The text has a layout that writes the expression. -/
def WrittenAs (e : Expr) (text : String) : Prop :=
  ∃ layout : Layout .lenient, layout.text = text ∧ Writes layout.tokens e

theorem writtenAs_tight {e : Expr} {tokens : List Token} (h : Writes tokens e)
    (hwritable : ∀ t ∈ tokens, t.Writable) :
    e.WrittenAs (Layout.tight tokens hwritable : Layout .lenient).text :=
  ⟨_, rfl, by rwa [Layout.tokens_tight]⟩

/-- The tree of `0*(1/(.5-0.50))`. -/
def cancelling : Expr :=
  .binary .times (.literal "0")
    (.binary .divide (.literal "1") (.binary .minus (.literal ".5") (.literal "0.50")))

theorem writtenAs_cancelling : cancelling.WrittenAs "0*(1/(.5-0.50))" := by
  have hdifference : Writes [.num ".5", .op .minus, .num "0.50"]
      (.binary .minus (.literal ".5") (.literal "0.50")) :=
    Derives.binary .minus (Derives.num ".5").lower.lower (Derives.num "0.50").lower
  have hquotient : Writes [.num "1", .op .divide, .lparen, .num ".5", .op .minus, .num "0.50",
      .rparen] (.binary .divide (.literal "1")
        (.binary .minus (.literal ".5") (.literal "0.50"))) :=
    (Derives.binary .divide (Derives.num "1").lower (Derives.paren hdifference)).lower
  have hproduct : Writes [.num "0", .op .times, .lparen, .num "1", .op .divide, .lparen,
      .num ".5", .op .minus, .num "0.50", .rparen, .rparen] cancelling :=
    (Derives.binary .times (Derives.num "0").lower (Derives.paren hquotient)).lower
  exact writtenAs_tight hproduct (by simp [Token.Writable, Token.inNumber])

/-- The tree of `(1-2)/3`. -/
def negativeThird : Expr :=
  .binary .divide (.binary .minus (.literal "1") (.literal "2")) (.literal "3")

theorem writtenAs_negativeThird : negativeThird.WrittenAs "(1-2)/3" := by
  have hdifference : Writes [.num "1", .op .minus, .num "2"]
      (.binary .minus (.literal "1") (.literal "2")) :=
    Derives.binary .minus (Derives.num "1").lower.lower (Derives.num "2").lower
  have hquotient : Writes [.lparen, .num "1", .op .minus, .num "2", .rparen, .op .divide,
      .num "3"] negativeThird :=
    (Derives.binary .divide (Derives.paren hdifference).lower (Derives.num "3")).lower
  exact writtenAs_tight hquotient (by simp [Token.Writable, Token.inNumber])

/-- The tree of `1/3-2/3`. -/
def thirdsApart : Expr :=
  .binary .minus (.binary .divide (.literal "1") (.literal "3"))
    (.binary .divide (.literal "2") (.literal "3"))

theorem writtenAs_thirdsApart : thirdsApart.WrittenAs "1/3-2/3" := by
  have hdifference : Writes [.num "1", .op .divide, .num "3", .op .minus, .num "2",
      .op .divide, .num "3"] thirdsApart :=
    Derives.binary .minus
      (Derives.binary .divide (Derives.num "1").lower (Derives.num "3")).lower
      (Derives.binary .divide (Derives.num "2").lower (Derives.num "3"))
  exact writtenAs_tight hdifference (by simp [Token.Writable, Token.inNumber])

end Expr

/-- A divisor is zero, and the zero in front of it is of no avail; a negative third has its
sign and its digits, however it is come by. -/
theorem exact_calculation_is_rational_of_zero_and_thirds :
    (Expr.cancelling.Legible ∧ Expr.cancelling.DividesByZero ∧
      calculate { arithmetic := .exact } "0*(1/(.5-0.50))" = .error .divisionByZero) ∧
    Expr.negativeThird.Legible ∧ ¬ Expr.negativeThird.DividesByZero ∧ ∃ r,
      calculate { arithmetic := .exact } "(1-2)/3" = .ok r ∧
        r.value.toBits = 0xBFD5555555555555 ∧ r.display = "=-0.33" ∧
        Result.toAnswer <$> calculate { arithmetic := .exact } "1/3-2/3" = .ok r.toAnswer := by
  obtain ⟨failing, hfailing, hcancelling⟩ := Expr.writtenAs_cancelling
  obtain ⟨layout, htext, hthird⟩ := Expr.writtenAs_negativeThird
  obtain ⟨other, hother, hthirds⟩ := Expr.writtenAs_thirdsApart
  -- the calculation that fails
  have hlegible : Expr.cancelling.Legible := by decide +kernel
  have hzero : Expr.cancelling.DividesByZero :=
    ⟨_, _, .right _ _ .all, by decide +kernel, by decide +kernel⟩
  have hfails := (exact_calculation_is_rational {} failing hcancelling hlegible).1.mpr hzero
  -- the one that has a value, and another one of that value
  have hlegible' : Expr.negativeThird.Legible := by decide +kernel
  have hzero' : ¬ Expr.negativeThird.DividesByZero :=
    Expr.Defined.not_dividesByZero (by decide +kernel)
  have hvalue : Expr.negativeThird.value = -1 / 3 := by decide +kernel
  obtain ⟨-, hvalued, hsame⟩ := exact_calculation_is_rational {} layout hthird hlegible'
  obtain ⟨r, hr, hbits, hdisplay⟩ := hvalued hzero'
  have hanswers := hsame other Expr.thirdsApart hthirds (by decide +kernel) hzero'
    (Expr.Defined.not_dividesByZero (by decide +kernel)) (by decide +kernel)
  rw [hvalue] at hbits hdisplay
  rw [hfailing] at hfails
  rw [hr, hother, map_ok] at hanswers
  rw [htext] at hr
  refine ⟨⟨hlegible, hzero, hfails⟩, hlegible', hzero', r, hr, ?_, ?_, hanswers⟩
  · rw [hbits]
    decide +kernel
  · rw [hdisplay]
    decide +kernel

end PostfixCalculator
