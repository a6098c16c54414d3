/-
# Zeros put into a list

Zeros that are put in among the tokens of an infix expression are found among the tokens of
its postfix form, and nothing else changes there, for a number has no influence on where the
others go (`Postfix.ofInfix_of_padded`).

They may as well all be put in at the beginning.  If a list is in balance with the zeros at
their places, it is in balance with the zeros in front, where they come earlier
(`Postfix.checkBalance_of_padded`).
-/
import PostfixCalculator.Proofs.Postfix.Earlier
import PostfixCalculator.Proofs.Postfix.Policies

namespace PostfixCalculator

namespace Token

/-- The second list is the first one with this many zeros put in. -/
inductive Padded : Nat → List Token → List Token → Prop where
  | nil : Padded 0 [] []
  | keep {k : Nat} {p q : List Token} (t : Token) : Padded k p q → Padded k (t :: p) (t :: q)
  | zero {k : Nat} {p q : List Token} : Padded k p q → Padded (k + 1) p (num "0" :: q)

namespace Padded

variable {k : Nat} {p q : List Token}

theorem refl (p : List Token) : Padded 0 p p := by
  induction p with
  | nil => exact .nil
  | cons t p ih => exact ih.keep t

theorem append_right (h : Padded k p q) (more : List Token) : Padded k (p ++ more) (q ++ more) := by
  induction h with
  | nil => exact refl more
  | keep t _ ih => exact ih.keep t
  | zero _ ih => exact ih.zero

theorem concat_zero (h : Padded k p q) : Padded (k + 1) p (q ++ [num "0"]) := by
  induction h with
  | nil => exact Padded.nil.zero
  | keep t _ ih => exact ih.keep t
  | zero _ ih => exact ih.zero

theorem length_eq (h : Padded k p q) : q.length = p.length + k := by
  induction h with
  | nil => rfl
  | keep t _ ih => rw [List.length_cons, List.length_cons, ih, Nat.add_right_comm]
  | zero _ ih => rw [List.length_cons, ih, Nat.add_assoc]

end Padded

end Token

/-! ## 1. Sorting -/

/-- **The yard with the zeros and without.**  The same operators are left to wait, and the zeros
that have come in are found in the output. -/
theorem Yard.foldlM_of_padded {k : Nat} {tokens more : List Token}
    (h : Token.Padded k tokens more) :
    ∀ {j : Nat} {last : Yard} (yard : Yard) (output : List Token),
      Token.Padded j output.reverse yard.output.reverse → more.foldlM step yard = .ok last →
      ∃ output', tokens.foldlM step { yard with output := output } =
          .ok { last with output := output' } ∧
        Token.Padded (j + k) output'.reverse last.output.reverse := by
  induction h with
  | nil =>
    intro j last yard output hpadded hrun
    obtain rfl := Except.ok.inj hrun
    exact ⟨output, rfl, hpadded⟩
  | @keep k tokens more t _ ih =>
    intro j last yard output hpadded hrun
    obtain ⟨next, hstep, hrun⟩ := bind_eq_ok_iff.mp hrun
    obtain ⟨added, hnext, hother⟩ := step_of_output hstep
    have hstill : Token.Padded j (added ++ output).reverse next.output.reverse := by
      rw [hnext, List.reverse_append, List.reverse_append]
      exact hpadded.append_right added.reverse
    obtain ⟨output', hrun', hpadded'⟩ := ih next (added ++ output) hstill hrun
    exact ⟨output', bind_eq_ok_iff.mpr ⟨_, hother output, hrun'⟩, hpadded'⟩
  | @zero k tokens more _ ih =>
    intro j last yard output hpadded hrun
    have hzero : Token.Padded (j + 1) output.reverse (.num "0" :: yard.output).reverse := by
      rw [List.reverse_cons]
      exact hpadded.concat_zero
    obtain ⟨output', hrun', hpadded'⟩ :=
      ih { yard with output := .num "0" :: yard.output } output hzero hrun
    exact ⟨output', hrun', by rwa [Nat.add_right_comm] at hpadded'⟩

namespace Postfix

/-- **Zeros put into an infix list are put into its postfix form.** -/
theorem ofInfix_of_padded {k : Nat} {tokens more q : List Token} (h : Token.Padded k tokens more)
    (hsort : ofInfix more = .ok q) : ∃ p, ofInfix tokens = .ok p ∧ Token.Padded k p q := by
  obtain ⟨last, hrun, hfinish⟩ := bind_eq_ok_iff.mp hsort
  obtain ⟨output, hrun', hpadded⟩ := Yard.foldlM_of_padded h {} [] Token.Padded.nil hrun
  obtain ⟨added, rfl, hother⟩ := Yard.finish_of_output hfinish
  rw [Nat.zero_add] at hpadded
  exact ⟨output.reverse ++ added, bind_eq_ok_iff.mpr ⟨_, hrun', hother output⟩,
    hpadded.append_right added⟩

/-! ## 2. Balance -/

/-- A step that is possible is possible with more values. -/
theorem countStep_add {depth n : Nat} {t : Token} (h : countStep depth t = .ok n) (k : Nat) :
    countStep (depth + k) t = .ok (n + k) := by
  cases t with
  | num text =>
    obtain rfl := Except.ok.inj h
    exact congrArg Except.ok (Nat.add_right_comm depth k 1)
  | op o =>
    obtain ⟨hdepth, rfl⟩ := countStep_op_eq_ok_iff.mp h
    exact countStep_op_eq_ok_iff.mpr ⟨by omega, by omega⟩
  | lparen => exact absurd h nofun
  | rparen => exact absurd h nofun

/-- The count goes on when the zeros that come later are there already. -/
theorem count_of_padded {k n : Nat} {p q : List Token} (h : Token.Padded k p q) :
    ∀ {depth : Nat}, q.foldlM countStep depth = .ok n →
      p.foldlM countStep (depth + k) = .ok n := by
  induction h with
  | nil => exact fun hrun => hrun
  | keep t _ ih =>
    intro depth hrun
    obtain ⟨middle, hstep, hrun⟩ := bind_eq_ok_iff.mp hrun
    exact bind_eq_ok_iff.mpr ⟨_, countStep_add hstep _, ih hrun⟩
  | zero _ ih =>
    intro depth hrun
    rw [← Nat.add_assoc, Nat.add_right_comm]
    exact ih hrun

theorem count_zeros (k : Nat) : ∀ depth : Nat,
    (List.replicate k (Token.num "0")).foldlM countStep depth = .ok (depth + k) := by
  induction k with
  | zero => exact fun depth => rfl
  | succ k ih =>
    intro depth
    rw [← Nat.add_assoc, Nat.add_right_comm]
    exact ih (depth + 1)

/-- **In balance with zeros in between, in balance with the zeros in front.** -/
theorem checkBalance_of_padded {k : Nat} {p q : List Token} (h : Token.Padded k p q)
    (hq : checkBalance q = .ok ()) :
    checkBalance (List.replicate k (.num "0") ++ p) = .ok () := by
  have hcount := count_of_padded h (checkBalance_eq_ok_iff.mp hq)
  rw [checkBalance_eq_ok_iff, List.foldlM_append, count_zeros, ok_bind, hcount]

end Postfix

end PostfixCalculator
