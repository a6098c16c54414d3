/-
# The value of a postfix form

Evaluating the postfix form of an expression on a stack does what the recursion on the tree
does: it puts the value of the expression on top, or fails where the recursion fails.

* `reduce_postorder`: on any stack, under either policy, the whole postfix form acts as one
  number.
* `checkBalance_postorder`: the strict policy has nothing against it.
* `evaluate_postorder`: so its value is that of the expression.

No operator of a postfix form meets fewer than two values, so no policy has a say.  One more
operator behind the form meets one value; under the tolerant policy it has a zero on its left
(`evaluate_postorder_op`).
-/
import PostfixCalculator.Expr
import PostfixCalculator.Postfix.Evaluation
import PostfixCalculator.Proofs.Outcome

namespace PostfixCalculator

variable {α : Type} [Number α]

/-! ## 1. On any stack -/

namespace Postfix

/-- **A postfix form is one operand.**  Whatever lies on the stack stays, and the value of the
expression comes on top of it. -/
theorem reduce_postorder (policy : Policy) (e : Expr) :
    ∀ stack : List α, e.postorder.foldlM (reduceStep policy) stack = (· :: stack) <$> e.eval := by
  induction e with
  | literal text =>
    intro stack
    exact bind_pure (m := Except CalcError) _
  | binary o left right ihl ihr =>
    intro stack
    rw [Expr.postorder, List.foldlM_append, List.foldlM_append, ihl, Expr.eval]
    cases left.eval (α := α) with
    | error e => rfl
    | ok x =>
      rw [map_ok, ok_bind, ok_bind, ihr]
      cases right.eval (α := α) with
      | error e => rfl
      | ok y => exact bind_pure (m := Except CalcError) _

/-- To the count of values a postfix form is one number, too. -/
theorem count_postorder (e : Expr) :
    ∀ depth : Nat, e.postorder.foldlM countStep depth = .ok (depth + 1) := by
  induction e with
  | literal text => exact fun depth => rfl
  | binary o left right ihl ihr =>
    intro depth
    have hstep : countStep (depth + 1 + 1) (.op o) = .ok (depth + 1) := by
      simp [countStep]
    rw [Expr.postorder, List.foldlM_append, List.foldlM_append, ihl, ok_bind, ihr, ok_bind,
      List.foldlM_cons, hstep]
    rfl

/-! ## 2. On its own -/

theorem checkBalance_postorder (e : Expr) : checkBalance e.postorder = .ok () := by
  rw [checkBalance, count_postorder]
  rfl

/-- **The value of a postfix form is the value of its expression**, under either policy, and
so is the error. -/
theorem evaluate_postorder (policy : Policy) (e : Expr) :
    evaluate policy e.postorder = (e.eval : Except CalcError α) := by
  have hreduce : (reduce policy e.postorder >>= single) = (e.eval : Except CalcError α) := by
    rw [reduce, reduce_postorder]
    cases e.eval (α := α) <;> rfl
  cases policy with
  | tolerant => exact hreduce
  | strict => rw [← hreduce, evaluate, checkBalance_postorder, ok_bind]

/-- **The operator that comes last finds one value**, and takes it as its right operand. -/
theorem evaluate_postorder_op (hzero : (Number.ofText "0" : Except CalcError α) = .ok Number.zero)
    (e : Expr) (o : Operator) :
    evaluate .tolerant (e.postorder ++ [.op o]) =
      ((Expr.binary o (.literal "0") e).eval : Except CalcError α) := by
  rw [evaluate, reduce, List.foldlM_append, reduce_postorder, Expr.eval, Expr.eval, hzero, ok_bind]
  cases (e.eval : Except CalcError α) with
  | error error => rfl
  | ok x =>
    have hlast : [Token.op o].foldlM (reduceStep .tolerant) [x] =
        ([·]) <$> Number.apply o Number.zero x := bind_pure (m := Except CalcError) _
    rw [map_ok, ok_bind, ok_bind, hlast]
    cases Number.apply o Number.zero x with
    | error error => rfl
    | ok y => rfl

end Postfix

/-! ## 3. What can go wrong in it -/

end PostfixCalculator
