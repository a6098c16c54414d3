/-
# Why a postfix list has no value

Whatever an evaluation fails with can be traced to the list: to a number token that denotes no
number, to an operator of the numbers, to a parenthesis, or to the number of operands at hand
(`Postfix.Fault`).  This holds under either policy, since the balance check finds no other
faults than the evaluation does.
-/
import PostfixCalculator.Postfix.Evaluation
import PostfixCalculator.Proofs.Postfix.Conservation

namespace PostfixCalculator

namespace Postfix

variable {α : Type} [Number α] {tokens : List Token} {e : CalcError}

/-- What can be amiss with a postfix list, and the error that tells. -/
inductive Fault (α : Type) [Number α] (tokens : List Token) : CalcError → Prop where
  /-- Operands and operators do not add up. -/
  | operands (remaining : Nat) : Fault α tokens (.insufficientOperands remaining)
  | literal {text : String} : Token.num text ∈ tokens → Fault α tokens (.invalidLiteral text)
  | operator {o : Operator} {x y : α} {e : CalcError} :
    Token.op o ∈ tokens → Number.apply o x y = .error e → Fault α tokens e
  | paren {t : Token} : t ∈ tokens → t.isParen = true → Fault α tokens (.unknownOperator t.text)

theorem countStep_fault {depth : Nat} {t : Token} (ht : t ∈ tokens)
    (h : countStep depth t = .error e) : Fault α tokens e := by
  cases t with
  | num text => exact absurd h nofun
  | op o =>
    rw [countStep] at h
    split at h
    · obtain rfl := Except.error.inj h
      exact .operands depth
    · exact absurd h nofun
  | lparen =>
    obtain rfl := Except.error.inj h
    exact .paren ht rfl
  | rparen =>
    obtain rfl := Except.error.inj h
    exact .paren ht rfl

theorem reduceStep_fault {policy : Policy} {stack : List α} {t : Token} (ht : t ∈ tokens)
    (h : reduceStep policy stack t = .error e) : Fault α tokens e := by
  cases t with
  | num text =>
    obtain rfl := Number.eq_invalidLiteral_of_ofText (map_eq_error_iff.mp h)
    exact .literal ht
  | op o =>
    match stack, policy with
    | right :: left :: rest, _ => exact .operator ht (map_eq_error_iff.mp h)
    | [right], .tolerant => exact .operator ht (map_eq_error_iff.mp h)
    | [right], .strict =>
      obtain rfl := Except.error.inj h
      exact .operands 1
    | [], _ =>
      obtain rfl := Except.error.inj h
      exact .operands 0
  | lparen =>
    obtain rfl := Except.error.inj h
    exact .paren ht rfl
  | rparen =>
    obtain rfl := Except.error.inj h
    exact .paren ht rfl

theorem single_fault {stack : List α} (h : single stack = .error e) : Fault α tokens e := by
  match stack with
  | [_] => exact absurd h nofun
  | [] =>
    obtain rfl := Except.error.inj h
    exact .operands 0
  | x :: y :: rest =>
    obtain rfl := Except.error.inj h
    exact .operands _

theorem checkBalance_fault (h : checkBalance tokens = .error e) : Fault α tokens e := by
  rcases bind_eq_error_iff.mp h with hcount | ⟨depth, -, hdepth⟩
  · obtain ⟨t, ht, depth, hstep⟩ := exists_of_foldlM_eq_error hcount
    exact countStep_fault ht hstep
  · split at hdepth
    · exact absurd hdepth nofun
    · obtain rfl := Except.error.inj hdepth
      exact .operands depth

/-- **Every error of an evaluation is a fault of the list.** -/
theorem evaluate_fault {policy : Policy}
    (h : (evaluate policy tokens : Except CalcError α) = .error e) : Fault α tokens e := by
  have hreduce : (reduce policy tokens >>= single : Except CalcError α) = .error e →
      Fault α tokens e := by
    intro h
    rcases bind_eq_error_iff.mp h with hrun | ⟨stack, -, hsingle⟩
    · obtain ⟨t, ht, stack, hstep⟩ := exists_of_foldlM_eq_error hrun
      exact reduceStep_fault ht hstep
    · exact single_fault hsingle
  cases policy with
  | tolerant => exact hreduce h
  | strict =>
    rcases bind_eq_error_iff.mp h with hbalance | ⟨_, -, hvalue⟩
    · exact checkBalance_fault hbalance
    · exact hreduce hvalue

end Postfix

end PostfixCalculator
