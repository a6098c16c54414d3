/-
# What the strict policy adds

The strict policy counts before it computes, and the count knows nothing of values.  Still the
two policies differ by that count alone: of a list that passes it, they give the same value or
the same error (`evaluate_of_balanced`).

The reason is an invariant that ties the two loops together.  As long as the count goes on, it
is the height of the stack of values, whatever the values are (`length_reduce`).  An operator
that the count lets pass finds two values, so the evaluation never asks its policy, which
matters to an operator with one value only; and a count that ends at one leaves one value.

The count reads the kind of a token and not the text of a number (`count_eq_of_shape_eq`), so
that a list which it refuses is refused with the same error whatever its numbers are.
-/
import PostfixCalculator.Proofs.Calculation

namespace PostfixCalculator

/-- A token without the text of its number. -/
def Token.shape : Token → Token
  | .num _ => .num ""
  | t => t

namespace Postfix

variable {α : Type} [Number α] {policy : Policy} {tokens : List Token}

/-! ## 1. The count -/

theorem checkBalance_eq_ok_iff :
    checkBalance tokens = .ok () ↔ tokens.foldlM countStep 0 = .ok 1 := by
  rw [checkBalance, bind_eq_ok_iff]
  constructor
  · rintro ⟨depth, hrun, hdepth⟩
    split at hdepth
    · rename_i h
      rw [hrun, h]
    · exact absurd hdepth (by simp)
  · exact fun hrun => ⟨1, hrun, rfl⟩

/-- An operator that the count lets pass takes two values and gives one. -/
theorem countStep_op_eq_ok_iff {depth n : Nat} {o : Operator} :
    countStep depth (.op o) = .ok n ↔ 2 ≤ depth ∧ n = depth - 1 := by
  rw [countStep]
  split
  · rename_i h
    exact ⟨nofun, fun hd => absurd hd.1 (Nat.not_le_of_lt h)⟩
  · rename_i h
    rw [Except.ok.injEq]
    exact ⟨fun hn => ⟨Nat.le_of_not_lt h, hn.symm⟩, fun hd => hd.2.symm⟩

theorem countStep_shape (depth : Nat) (t : Token) :
    countStep depth t.shape = countStep depth t := by
  cases t <;> rfl

/-- **The count does not read the numbers.** -/
theorem count_eq_of_shape_eq {p q : List Token} (h : p.map Token.shape = q.map Token.shape)
    (depth : Nat) : p.foldlM countStep depth = q.foldlM countStep depth := by
  have hshape : ∀ l : List Token,
      (l.map Token.shape).foldlM countStep depth = l.foldlM countStep depth := by
    intro l
    rw [List.foldlM_map]
    simp only [countStep_shape]
  rw [← hshape p, ← hshape q, h]

theorem checkBalance_eq_of_shape_eq {p q : List Token} (h : p.map Token.shape = q.map Token.shape) :
    checkBalance p = checkBalance q := by
  rw [checkBalance, checkBalance, count_eq_of_shape_eq h]

/-! ## 2. The count is the height of the stack -/

/-- One step: the count after a token is the height of the stack after it. -/
theorem length_reduceStep {stack stack' : List α} {t : Token} {n : Nat}
    (hcount : countStep stack.length t = .ok n) (hstep : reduceStep policy stack t = .ok stack') :
    stack'.length = n := by
  cases t with
  | num text =>
    obtain ⟨x, -, rfl⟩ := map_eq_ok_iff.mp hstep
    exact Except.ok.inj hcount
  | op o =>
    obtain ⟨hdepth, rfl⟩ := countStep_op_eq_ok_iff.mp hcount
    match stack, hdepth with
    | right :: left :: rest, _ =>
      obtain ⟨x, -, rfl⟩ := map_eq_ok_iff.mp hstep
      rfl
  | lparen => exact absurd hcount (by simp [countStep])
  | rparen => exact absurd hcount (by simp [countStep])

/-- One step: where the count goes on, the evaluation fails at a literal that denotes no
number, or in an operator on two values. -/
theorem reduceStep_eq_error_of_count {stack : List α} {t : Token} {n : Nat} {e : CalcError}
    (hcount : countStep stack.length t = .ok n) (hstep : reduceStep policy stack t = .error e) :
    (∃ text, t = .num text ∧ e = .invalidLiteral text) ∨
      ∃ (o : Operator) (x y : α), t = .op o ∧ Number.apply o x y = .error e := by
  cases t with
  | num text =>
    exact Or.inl ⟨text, rfl, Number.eq_invalidLiteral_of_ofText (map_eq_error_iff.mp hstep)⟩
  | op o =>
    obtain ⟨hdepth, -⟩ := countStep_op_eq_ok_iff.mp hcount
    match stack, hdepth with
    | right :: left :: rest, _ =>
      exact Or.inr ⟨o, left, right, rfl, map_eq_error_iff.mp hstep⟩
  | lparen => exact absurd hcount (by simp [countStep])
  | rparen => exact absurd hcount (by simp [countStep])

/-- One step: where the count goes on, the policy has no say. -/
theorem reduceStep_of_count {stack : List α} {t : Token} {n : Nat}
    (hcount : countStep stack.length t = .ok n) (policy policy' : Policy) :
    reduceStep policy stack t = reduceStep policy' stack t := by
  cases t with
  | op o =>
    obtain ⟨hdepth, -⟩ := countStep_op_eq_ok_iff.mp hcount
    match stack, hdepth with
    | right :: left :: rest, _ => rfl
  | num text => rfl
  | lparen => rfl
  | rparen => rfl

/-- **The count is the height of the stack**, all along a run that the count accompanies. -/
theorem length_reduce {n : Nat} :
    ∀ (stack : List α) {stack' : List α}, tokens.foldlM countStep stack.length = .ok n →
      tokens.foldlM (reduceStep policy) stack = .ok stack' → stack'.length = n := by
  induction tokens with
  | nil =>
    intro stack stack' hcount hrun
    rw [← Except.ok.inj hrun]
    exact Except.ok.inj hcount
  | cons t tokens ih =>
    intro stack stack' hcount hrun
    obtain ⟨m, hm, hcount⟩ := bind_eq_ok_iff.mp hcount
    obtain ⟨middle, hstep, hrun⟩ := bind_eq_ok_iff.mp hrun
    rw [← length_reduceStep hm hstep] at hcount
    exact ih middle hcount hrun

/-- **Along such a run only literals and operators fail.** -/
theorem reduce_eq_error_of_count {n : Nat} {e : CalcError} :
    ∀ stack : List α, tokens.foldlM countStep stack.length = .ok n →
      tokens.foldlM (reduceStep policy) stack = .error e →
      (∃ text, Token.num text ∈ tokens ∧ e = .invalidLiteral text) ∨
        ∃ (o : Operator) (x y : α), Token.op o ∈ tokens ∧ Number.apply o x y = .error e := by
  induction tokens with
  | nil => exact fun _ _ hrun => absurd hrun nofun
  | cons t tokens ih =>
    intro stack hcount hrun
    obtain ⟨m, hm, hcount⟩ := bind_eq_ok_iff.mp hcount
    rcases bind_eq_error_iff.mp hrun with hstep | ⟨middle, hstep, hrun⟩
    · rcases reduceStep_eq_error_of_count hm hstep with ⟨text, rfl, he⟩ | ⟨o, x, y, rfl, he⟩
      · exact Or.inl ⟨text, List.mem_cons_self, he⟩
      · exact Or.inr ⟨o, x, y, List.mem_cons_self, he⟩
    · rw [← length_reduceStep hm hstep] at hcount
      rcases ih middle hcount hrun with ⟨text, hmem, he⟩ | ⟨o, x, y, hmem, he⟩
      · exact Or.inl ⟨text, List.mem_cons_of_mem t hmem, he⟩
      · exact Or.inr ⟨o, x, y, List.mem_cons_of_mem t hmem, he⟩

/-- **Along such a run the policy has no say.** -/
theorem reduce_of_count {n : Nat} (policy policy' : Policy) :
    ∀ stack : List α, tokens.foldlM countStep stack.length = .ok n →
      tokens.foldlM (reduceStep policy) stack = tokens.foldlM (reduceStep policy') stack := by
  induction tokens with
  | nil => exact fun _ _ => rfl
  | cons t tokens ih =>
    intro stack hcount
    obtain ⟨m, hm, hcount⟩ := bind_eq_ok_iff.mp hcount
    rw [List.foldlM_cons, List.foldlM_cons, reduceStep_of_count hm policy policy']
    cases hstep : reduceStep policy' stack t with
    | error e => rfl
    | ok middle =>
      rw [← length_reduceStep hm hstep] at hcount
      exact ih middle hcount

/-! ## 3. Lists in balance -/

/-- The evaluation of a list never lacks an operand: every operator that it comes to finds two
values, it fails for no other reason than a literal or an operator on two values, and at the
end one value is left. -/
structure Supplied (α : Type) [Number α] (policy : Policy) (tokens : List Token) : Prop where
  operands : ∀ {first rest : List Token} {o : Operator} {stack : List α},
    tokens = first ++ .op o :: rest → reduce policy first = .ok stack →
      ∃ right left below, stack = right :: left :: below
  failure : ∀ {e : CalcError}, (reduce policy tokens : Except CalcError (List α)) = .error e →
    (∃ text, Token.num text ∈ tokens ∧ e = .invalidLiteral text) ∨
      ∃ (o : Operator) (x y : α), Token.op o ∈ tokens ∧ Number.apply o x y = .error e
  result : ∀ {stack : List α}, reduce policy tokens = .ok stack → ∃ value, stack = [value]

/-- **A list in balance never lacks an operand.** -/
theorem supplied_of_balanced (h : checkBalance tokens = .ok ()) (policy : Policy) :
    Supplied α policy tokens where
  operands := by
    rintro first rest o stack rfl hrun
    have hcount := checkBalance_eq_ok_iff.mp h
    rw [List.foldlM_append] at hcount
    obtain ⟨depth, hfirst, hrest⟩ := bind_eq_ok_iff.mp hcount
    obtain ⟨n, hop, -⟩ := bind_eq_ok_iff.mp hrest
    have hheight : stack.length = depth := length_reduce [] hfirst hrun
    have hdepth : 2 ≤ stack.length := hheight ▸ (countStep_op_eq_ok_iff.mp hop).1
    match stack, hdepth with
    | right :: left :: below, _ => exact ⟨right, left, below, rfl⟩
  failure := reduce_eq_error_of_count [] (checkBalance_eq_ok_iff.mp h)
  result := by
    intro stack hrun
    exact List.length_eq_one_iff.mp (length_reduce [] (checkBalance_eq_ok_iff.mp h) hrun)

/-- **Of a list in balance, the two policies give the same value or the same error.** -/
theorem evaluate_of_balanced (h : checkBalance tokens = .ok ()) :
    evaluate .strict tokens = (evaluate .tolerant tokens : Except CalcError α) := by
  have hreduce : reduce .strict tokens = (reduce .tolerant tokens : Except CalcError (List α)) :=
    reduce_of_count _ _ [] (checkBalance_eq_ok_iff.mp h)
  rw [evaluate, evaluate, h, ok_bind, hreduce]

/-- A list out of balance has no value under the strict policy, and nothing of it is computed. -/
theorem evaluate_of_not_balanced {e : CalcError} (h : checkBalance tokens = .error e) :
    evaluate .strict tokens = (.error e : Except CalcError α) := by
  rw [evaluate, h, error_bind]

theorem balanced_of_evaluate {x : α} (h : evaluate .strict tokens = .ok x) :
    checkBalance tokens = .ok () := by
  cases hbalance : checkBalance tokens with
  | ok u => rfl
  | error e =>
    rw [evaluate_of_not_balanced hbalance] at h
    exact absurd h (by simp)

end Postfix

/-! ## 4. Calculations -/

/-- What the strict policy answers is in balance. -/
theorem balanced_of_answer {settings : Settings} {p : List Token} {found : Answer}
    (h : answer { settings with policy := .strict } p = .ok found) :
    Postfix.checkBalance p = .ok () := by
  rw [answer_eq] at h
  obtain ⟨x, hx, -⟩ := map_eq_ok_iff.mp h
  exact Postfix.balanced_of_evaluate hx

/-- To a list in balance the two policies give the same answer. -/
theorem answer_of_balanced {settings : Settings} {p : List Token}
    (h : Postfix.checkBalance p = .ok ()) :
    answer { settings with policy := .strict } p =
      answer { settings with policy := .tolerant } p := by
  rw [answer_eq, answer_eq]
  exact congrArg (Answer.ofNumber settings.decimals <$> ·) (Postfix.evaluate_of_balanced h)

/-- **The tolerant policy calculates whatever the strict one does**, with the same value, the
same display and the same trace. -/
theorem calculate_tolerant_of_strict {settings : Settings} {expression : String} {r : Result}
    (h : calculate { settings with policy := .strict } expression = .ok r) :
    calculate { settings with policy := .tolerant } expression = .ok r := by
  cases hp : Postfix.ofExpression settings.lexicon expression with
  | error e =>
    have hstrict : calculate { settings with policy := .strict } expression = .error e :=
      calculate_of_error hp
    rw [hstrict] at h
    exact absurd h (by simp)
  | ok p =>
    obtain ⟨tokens, hscan, hsort⟩ := Postfix.ofExpression_eq_ok_iff.mp hp
    have hstages : ∀ policy, calculate { settings with policy := policy } expression =
        Answer.traced tokens p <$> answer { settings with policy := policy } p :=
      fun policy => calculate_of_ok hscan hsort
    rw [hstages] at h ⊢
    obtain ⟨found, hfound, -⟩ := map_eq_ok_iff.mp h
    rwa [← answer_of_balanced (balanced_of_answer hfound)]

/-- **The policies differ by the balance alone.**  Of a list in balance both give one value or
one error in any numbers, and the evaluation never lacks an operand.  Of a list out of balance
the strict policy gives the error of the balance, which depends neither on the numbers nor on
what they are computed in.  So the tolerant policy calculates whatever the strict one does. -/
theorem policies_differ_by_balance (p : List Token) :
    (Postfix.checkBalance p = .ok () → ∀ (α : Type) [Number α],
      Postfix.evaluate .strict p = (Postfix.evaluate .tolerant p : Except CalcError α) ∧
        ∀ policy, Postfix.Supplied α policy p) ∧
    (∀ e, Postfix.checkBalance p = .error e → ∀ q, q.map Token.shape = p.map Token.shape →
      ∀ (α : Type) [Number α], Postfix.evaluate .strict q = (.error e : Except CalcError α)) ∧
    ∀ (settings : Settings) (expression : String) (r : Result),
      calculate { settings with policy := .strict } expression = .ok r →
        calculate { settings with policy := .tolerant } expression = .ok r := by
  refine ⟨?_, ?_, ?_⟩
  · intro h α _
    exact ⟨Postfix.evaluate_of_balanced h, Postfix.supplied_of_balanced h⟩
  · intro e h q hq α _
    rw [← Postfix.checkBalance_eq_of_shape_eq hq] at h
    exact Postfix.evaluate_of_not_balanced h
  · intro settings expression r h
    exact calculate_tolerant_of_strict h

/-- `1 2 +` is in balance, and `1 +` is not, nor is `7 +`. -/
theorem policies_differ_by_balance_of_sums :
    Postfix.evaluate .strict [.num "1", .num "2", .op .plus] =
        (Postfix.evaluate .tolerant [.num "1", .num "2", .op .plus] : Except CalcError Rat) ∧
      Postfix.evaluate .strict [.num "7", .op .plus] =
        (.error (.insufficientOperands 1) : Except CalcError Rat) :=
  ⟨((policies_differ_by_balance [.num "1", .num "2", .op .plus]).1 rfl Rat).1,
    (policies_differ_by_balance [.num "1", .op .plus]).2.1 (.insufficientOperands 1) rfl
      [.num "7", .op .plus] rfl Rat⟩

end PostfixCalculator
