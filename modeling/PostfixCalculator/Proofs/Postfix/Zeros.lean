/-
# Zeros below

Under the tolerant policy an operator with one value reads a zero on its left.  That is what
it finds if zeros lie below all values from the beginning.  So zeros that are written in front
of a list may be left out, provided that its operators use all of them: with the zeros there
must not be more than one number more than there are operators (`evaluate_zeros_append`).

A zero in front must not stand in for the right operand of an operator that comes first of
all.  This is why the list begins with a number.
-/
import PostfixCalculator.Postfix.Evaluation
import PostfixCalculator.Proofs.Expr.Alternation
import PostfixCalculator.Proofs.Outcome

namespace PostfixCalculator.Postfix

variable {α : Type} [Number α]

/-- **One token**, with zeros below and without.  A number raises the height of the stack,
zeros included, and an operator lowers it, for it takes a zero from below if it has to. -/
theorem reduceStep_zeros_below (top : α) (rest : List α) (k : Nat) (t : Token) :
    (∃ e, reduceStep .tolerant (top :: rest ++ List.replicate (k + 1) Number.zero) t = .error e ∧
        reduceStep .tolerant (top :: rest) t = .error e) ∨
      ∃ (top' : α) (rest' : List α) (k' : Nat),
        reduceStep .tolerant (top :: rest ++ List.replicate (k + 1) Number.zero) t =
            .ok (top' :: rest' ++ List.replicate k' Number.zero) ∧
          reduceStep .tolerant (top :: rest) t = .ok (top' :: rest') ∧
          rest'.length + k' + t.isOperator.toNat = rest.length + (k + 1) + t.isNumber.toNat := by
  cases t with
  | num text =>
    rw [reduceStep, reduceStep]
    cases (Number.ofText text : Except CalcError α) with
    | error e => exact Or.inl ⟨e, rfl, rfl⟩
    | ok x =>
      exact Or.inr ⟨x, top :: rest, k + 1, rfl, rfl, Nat.add_right_comm rest.length 1 (k + 1)⟩
  | op o =>
    cases rest with
    | nil =>
      have hbelow : reduceStep .tolerant ([top] ++ List.replicate (k + 1) Number.zero) (.op o) =
          (· :: List.replicate k Number.zero) <$> Number.apply o Number.zero top := rfl
      have hstep : reduceStep .tolerant [top] (.op o) =
          ([·]) <$> Number.apply o Number.zero top := rfl
      rw [hbelow, hstep]
      cases Number.apply o Number.zero top with
      | error e => exact Or.inl ⟨e, rfl, rfl⟩
      | ok x => exact Or.inr ⟨x, [], k, rfl, rfl, Nat.add_assoc 0 k 1⟩
    | cons left below =>
      have hbelow : reduceStep .tolerant
          (top :: left :: below ++ List.replicate (k + 1) Number.zero) (.op o) =
            (· :: (below ++ List.replicate (k + 1) Number.zero)) <$> Number.apply o left top := rfl
      have hstep : reduceStep .tolerant (top :: left :: below) (.op o) =
          (· :: below) <$> Number.apply o left top := rfl
      rw [hbelow, hstep]
      cases Number.apply o left top with
      | error e => exact Or.inl ⟨e, rfl, rfl⟩
      | ok x =>
        exact Or.inr ⟨x, below, k + 1, rfl, rfl, Nat.add_right_comm below.length (k + 1) 1⟩
  | lparen => exact Or.inl ⟨_, rfl, rfl⟩
  | rparen => exact Or.inl ⟨_, rfl, rfl⟩

/-- **A list of tokens.**  Zeros below need not be there, if the operators use all of them. -/
theorem foldlM_zeros_below (tokens : List Token) :
    ∀ (top : α) (rest : List α) (k : Nat),
      rest.length + k + tokens.countP Token.isNumber ≤ tokens.countP Token.isOperator →
      tokens.foldlM (reduceStep .tolerant) (top :: rest ++ List.replicate k Number.zero) =
        tokens.foldlM (reduceStep .tolerant) (top :: rest) := by
  induction tokens with
  | nil =>
    intro top rest k hcount
    obtain rfl : k = 0 := Nat.eq_zero_of_add_eq_zero_left (Nat.le_zero.mp hcount)
    rw [List.replicate_zero, List.append_nil]
  | cons t tokens ih =>
    intro top rest k hcount
    rw [Token.countP_cons, Token.countP_cons] at hcount
    -- without a zero below the two stacks are one, and a zero is all that the step can lose
    cases k with
    | zero => rw [List.replicate_zero, List.append_nil]
    | succ k =>
      rw [List.foldlM_cons, List.foldlM_cons]
      rcases reduceStep_zeros_below top rest k t with
        ⟨e, hbelow, hstep⟩ | ⟨top', rest', k', hbelow, hstep, hheight⟩
      · rw [hbelow, hstep]
      · rw [hbelow, hstep, ok_bind, ok_bind]
        exact ih top' rest' k' (by omega)

/-- Zeros that are written come to lie on the stack. -/
theorem foldlM_zeros (hzero : (Number.ofText "0" : Except CalcError α) = .ok Number.zero)
    (policy : Policy) (k : Nat) : ∀ stack : List α,
      (List.replicate k (Token.num "0")).foldlM (reduceStep policy) stack =
        .ok (List.replicate k Number.zero ++ stack) := by
  induction k with
  | zero => exact fun stack => rfl
  | succ k ih =>
    intro stack
    have hstep : reduceStep policy stack (.num "0") = .ok (Number.zero :: stack) := by
      rw [reduceStep, hzero, map_ok]
    rw [List.replicate_succ, List.foldlM_cons, hstep, ok_bind, ih, List.replicate_succ',
      List.append_assoc, List.singleton_append]

/-- **Zeros in front may be left out**, if the operators use all of them. -/
theorem evaluate_zeros_append
    (hzero : (Number.ofText "0" : Except CalcError α) = .ok Number.zero) {k : Nat} {text : String}
    {tokens : List Token}
    (hcount : k + (tokens.countP Token.isNumber + 1) ≤ tokens.countP Token.isOperator + 1) :
    evaluate .tolerant (List.replicate k (.num "0") ++ .num text :: tokens) =
      (evaluate .tolerant (.num text :: tokens) : Except CalcError α) := by
  have hreduce : reduce .tolerant (List.replicate k (.num "0") ++ .num text :: tokens) =
      (reduce .tolerant (.num text :: tokens) : Except CalcError (List α)) := by
    rw [reduce, reduce, List.foldlM_append, foldlM_zeros hzero, ok_bind, List.append_nil,
      List.foldlM_cons, List.foldlM_cons, reduceStep, reduceStep]
    cases (Number.ofText text : Except CalcError α) with
    | error e => rfl
    | ok x => exact foldlM_zeros_below tokens x [] k (by rw [List.length_nil]; omega)
  rw [evaluate, evaluate, hreduce]

end PostfixCalculator.Postfix
