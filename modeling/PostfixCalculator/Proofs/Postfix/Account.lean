/-
# Numbers and operators

Each number of a postfix list adds a value to the count, and each operator takes one away
(`count_account`).  So a list in balance has one number more than it has operators.  Sorting
moves tokens and drops parentheses, so that the two can be counted in the infix list just as
well (`countP_of_ofInfix`).
-/
import PostfixCalculator.Proofs.Expr.Alternation
import PostfixCalculator.Proofs.Postfix.Conservation
import PostfixCalculator.Proofs.Postfix.Policies

namespace PostfixCalculator

namespace Token

theorem isParen_of_isNumber_or {t : Token} (h : t.isNumber = true ∨ t.isOperator = true) :
    t.isParen = false := by
  cases t with
  | num text => rfl
  | op o => rfl
  | lparen => exact absurd h (by decide)
  | rparen => exact absurd h (by decide)

end Token

namespace Postfix

/-- One step: a number adds a value to the count, an operator takes one away. -/
theorem countStep_account {depth n : Nat} {t : Token} (h : countStep depth t = .ok n) :
    n + t.isOperator.toNat = depth + t.isNumber.toNat := by
  cases t with
  | num text =>
    obtain rfl := Except.ok.inj h
    rfl
  | op o =>
    obtain ⟨hdepth, rfl⟩ := countStep_op_eq_ok_iff.mp h
    exact Nat.sub_add_cancel (Nat.le_of_succ_le hdepth)
  | lparen => exact absurd h (by simp [countStep])
  | rparen => exact absurd h (by simp [countStep])

/-- **The count is the numbers less the operators.** -/
theorem count_account {p : List Token} {depth n : Nat} (h : p.foldlM countStep depth = .ok n) :
    n + p.countP Token.isOperator = depth + p.countP Token.isNumber := by
  induction h using foldlM_ok_induction with
  | nil => rfl
  | cons hstep _ ih =>
    have hfirst := countStep_account hstep
    rw [Token.countP_cons, Token.countP_cons]
    omega

/-- A list in balance has one number more than it has operators. -/
theorem countP_of_balanced {p : List Token} (h : checkBalance p = .ok ()) :
    p.countP Token.isNumber = p.countP Token.isOperator + 1 := by
  have haccount := count_account (checkBalance_eq_ok_iff.mp h)
  omega

/-- Sorting keeps count of the numbers and of the operators. -/
theorem countP_of_ofInfix {tokens p : List Token} (h : ofInfix tokens = .ok p)
    {kind : Token → Bool}
    (hkind : ∀ t, kind t = true → t.isNumber = true ∨ t.isOperator = true) :
    p.countP kind = tokens.countP kind := by
  rw [(perm_of_ofInfix h).countP_eq, Token.unparenthesized, List.countP_filter]
  refine List.countP_congr fun t _ => ?_
  simpa using fun ht => Token.isParen_of_isNumber_or (hkind t ht)

end Postfix

end PostfixCalculator
