/-
# The zeros that are supplied

Under the tolerant policy an operator that finds one value only reads a zero on its left.  How
often that happens is counted along the evaluation (`Postfix.zerosRead`).

If the zeros had been there from the beginning, below all values, every operator would have
found two of them, and so the strict policy has nothing against the list with the zeros in
front (`Postfix.count_zerosRead`).  The count of that policy then says how many there are, for
it ends at one value: the zeros are what the numbers lack to be one more than the operators.

So the tolerant policy is the strict one behind zeros (`tolerant_is_strict_behind_zeros`).  In
the other direction a list might use the zeros without having an operand of its own, as `+`
would behind `0 0`; hence the number at the beginning.  A list with operands to spare is
balanced by no zeros, and has no value under either policy.
-/
import PostfixCalculator.Proofs.Omission
import PostfixCalculator.Proofs.Postfix.Trees

namespace PostfixCalculator

namespace Postfix

variable {α : Type} [Number α] {p : List Token}

/-! ## 1. Counting zeros -/

/-- Does the token read a zero when it finds this many values?  An operator does that finds
one. -/
def readsZero (height : Nat) (t : Token) : Bool := t.isOperator && height == 1

/-- How often a zero is read for a left operand, when the list is evaluated on this stack under
the tolerant policy. -/
def zerosRead (stack : List α) : List Token → Nat
  | [] => 0
  | t :: rest =>
    (readsZero stack.length t).toNat +
      match reduceStep .tolerant stack t with
      | .ok next => zerosRead next rest
      | .error _ => 0

theorem zerosRead_cons {stack next : List α} {t : Token}
    (h : reduceStep .tolerant stack t = .ok next) (rest : List Token) :
    zerosRead stack (t :: rest) = (readsZero stack.length t).toNat + zerosRead next rest := by
  rw [zerosRead, h]

/-- One step: with the zero that it reads already there, the strict policy counts it, and any
more zeros stay. -/
theorem countStep_readsZero {stack next : List α} {t : Token}
    (h : reduceStep .tolerant stack t = .ok next) (k : Nat) :
    countStep (stack.length + ((readsZero stack.length t).toNat + k)) t =
      .ok (next.length + k) := by
  cases t with
  | num text =>
    obtain ⟨x, -, rfl⟩ := map_eq_ok_iff.mp h
    simp [countStep, readsZero, Token.isOperator, Nat.add_right_comm]
  | op o =>
    rw [countStep_op_eq_ok_iff]
    cases stack with
    | nil => exact absurd h (by simp [reduceStep, operate])
    | cons right below =>
      cases below with
      | nil =>
        obtain ⟨x, -, rfl⟩ := map_eq_ok_iff.mp h
        have hreads : readsZero [right].length (.op o) = true := rfl
        rw [hreads, List.length_singleton, List.length_singleton, Bool.toNat_true]
        omega
      | cons left rest =>
        obtain ⟨x, -, rfl⟩ := map_eq_ok_iff.mp h
        have hreads : readsZero (right :: left :: rest).length (.op o) = false := by
          simp [readsZero]
        rw [hreads, List.length_cons, List.length_cons, List.length_cons, Bool.toNat_false]
        omega
  | lparen => exact absurd h (by simp [reduceStep])
  | rparen => exact absurd h (by simp [reduceStep])

/-- **A run**: with all the zeros that it reads already there, the strict policy counts it, and
ends at the height of the stack. -/
theorem count_zerosRead {stack last : List α}
    (h : p.foldlM (reduceStep .tolerant) stack = .ok last) :
    p.foldlM countStep (stack.length + zerosRead stack p) = .ok last.length := by
  induction h using foldlM_ok_induction with
  | nil => rfl
  | @cons t p stack middle hstep _ ih =>
    rw [zerosRead_cons hstep, List.foldlM_cons, countStep_readsZero hstep, ok_bind, ih]

/-! ## 2. Values -/

/-- What the tolerant policy gives a value ends with that value alone. -/
theorem reduce_of_evaluate {v : α} (h : evaluate .tolerant p = .ok v) :
    reduce .tolerant p = .ok [v] := by
  obtain ⟨stack, hrun, hsingle⟩ := bind_eq_ok_iff.mp h
  rw [hrun, single_eq_ok_iff.mp hsingle]

/-- It begins with a number. -/
theorem eq_num_cons_of_evaluate {v : α} (h : evaluate .tolerant p = .ok v) :
    ∃ text rest, p = .num text :: rest := by
  match p with
  | .num text :: rest => exact ⟨text, rest, rfl⟩
  | [] => exact absurd h nofun
  | .op o :: rest => exact absurd h nofun
  | .lparen :: rest => exact absurd h nofun
  | .rparen :: rest => exact absurd h nofun

/-- **The zeros that are read** are what the numbers lack to be one more than the operators. -/
theorem zerosRead_account {v : α} (h : evaluate .tolerant p = .ok v) :
    zerosRead ([] : List α) p + p.countP Token.isNumber = p.countP Token.isOperator + 1 := by
  have haccount := count_account (count_zerosRead (reduce_of_evaluate h))
  simp only [List.length_cons, List.length_nil] at haccount
  omega

/-- With these zeros in front the list is in balance. -/
theorem balanced_of_evaluate_tolerant {v : α} (h : evaluate .tolerant p = .ok v) :
    checkBalance (List.replicate (zerosRead ([] : List α) p) (.num "0") ++ p) = .ok () := by
  have hcount := count_zerosRead (reduce_of_evaluate h)
  rw [checkBalance_eq_ok_iff, List.foldlM_append, count_zeros, ok_bind]
  exact hcount

/-- **The tolerant policy is the strict one behind zeros**, in all numbers with the digit zero
for their zero. -/
theorem evaluate_tolerant_eq_ok_iff
    (hzero : (Number.ofText "0" : Except CalcError α) = .ok Number.zero) {v : α} :
    evaluate .tolerant p = .ok v ↔
      (∃ text rest, p = .num text :: rest) ∧
        p.countP Token.isNumber ≤ p.countP Token.isOperator + 1 ∧
        evaluate .strict
          (List.replicate (p.countP Token.isOperator + 1 - p.countP Token.isNumber) (.num "0") ++ p)
            = .ok v := by
  have hfront : (∃ text rest, p = .num text :: rest) →
      p.countP Token.isNumber ≤ p.countP Token.isOperator + 1 →
        evaluate .tolerant (List.replicate
          (p.countP Token.isOperator + 1 - p.countP Token.isNumber) (.num "0") ++ p) =
            (evaluate .tolerant p : Except CalcError α) := by
    rintro ⟨text, rest, rfl⟩ hcount
    refine evaluate_zeros_append hzero ?_
    simp only [Token.countP_cons, Token.isNumber, Token.isOperator, Bool.toNat_true,
      Bool.toNat_false, Nat.add_zero] at hcount ⊢
    omega
  constructor
  · intro h
    have hstart := eq_num_cons_of_evaluate h
    have haccount := zerosRead_account h
    have hcount : p.countP Token.isNumber ≤ p.countP Token.isOperator + 1 := by omega
    have hbalance := balanced_of_evaluate_tolerant h
    rw [Nat.eq_sub_of_add_eq haccount] at hbalance
    exact ⟨hstart, hcount, by rw [evaluate_of_balanced hbalance, hfront hstart hcount, h]⟩
  · rintro ⟨hstart, hcount, h⟩
    rw [← hfront hstart hcount, ← evaluate_of_balanced (balanced_of_evaluate h), h]

end Postfix

/-- **The tolerant policy is the strict one with zeros in front**, in either arithmetic.  A list
has a value under the tolerant policy just if it begins with a number, has at most one number
more than it has operators, and has that value under the strict policy with a zero in front for
each number that it lacks.  These are the zeros that are read on the way. -/
theorem tolerant_is_strict_behind_zeros (a : Arithmetic) (p : List Token) (v : a.Domain) :
    (Postfix.evaluate .tolerant p = .ok v ↔
      (∃ text rest, p = .num text :: rest) ∧
        p.countP Token.isNumber ≤ p.countP Token.isOperator + 1 ∧
        Postfix.evaluate .strict
          (List.replicate (p.countP Token.isOperator + 1 - p.countP Token.isNumber) (.num "0") ++ p)
            = .ok v) ∧
    (Postfix.evaluate .tolerant p = .ok v →
      Postfix.zerosRead ([] : List a.Domain) p =
        p.countP Token.isOperator + 1 - p.countP Token.isNumber) :=
  ⟨Postfix.evaluate_tolerant_eq_ok_iff a.ofText_zero,
    fun h => Nat.eq_sub_of_add_eq (Postfix.zerosRead_account h)⟩

/-- `5 - 2 * -` is `0 0 5 - 2 * -`, and reads a zero at its first and at its last operator. -/
theorem tolerant_is_strict_behind_zeros_twice :
    Postfix.evaluate .tolerant [.num "5", .op .minus, .num "2", .op .times, .op .minus] =
        (.ok (10 : Rat) : Except CalcError Arithmetic.exact.Domain) ∧
      Postfix.evaluate .strict
          [.num "0", .num "0", .num "5", .op .minus, .num "2", .op .times, .op .minus] =
        (.ok (10 : Rat) : Except CalcError Arithmetic.exact.Domain) ∧
      Postfix.zerosRead ([] : List Arithmetic.exact.Domain)
        [.num "5", .op .minus, .num "2", .op .times, .op .minus] = 2 := by
  have hvalue : (Postfix.evaluate .tolerant
      [.num "5", .op .minus, .num "2", .op .times, .op .minus] : Except CalcError Rat) = .ok 10 :=
    eq_ok_of_toOption (by decide +kernel)
  obtain ⟨hiff, hzeros⟩ := tolerant_is_strict_behind_zeros .exact
    [.num "5", .op .minus, .num "2", .op .times, .op .minus] (10 : Rat)
  exact ⟨hvalue, (hiff.mp hvalue).2.2, hzeros hvalue⟩

end PostfixCalculator
