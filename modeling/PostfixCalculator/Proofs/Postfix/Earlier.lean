/-
# What has gone out has no say

The yard never reads its output.  Tokens that went out before a run are still there when the
run is over, in front of what it added, and the run is otherwise what it would have been
without them (`Yard.foldlM_after`).  So a step that is possible is possible with any other
tokens before it (`Yard.step_of_output`).
-/
import PostfixCalculator.Postfix.Yard
import PostfixCalculator.Proofs.Outcome

namespace PostfixCalculator.Yard

/-! ## 1. More output -/

/-- The yard, if these tokens had gone out before all others. -/
def after (yard : Yard) (earlier : List Token) : Yard :=
  { yard with output := yard.output ++ earlier.reverse }

theorem after_after (yard : Yard) (first second : List Token) :
    (yard.after second).after first = yard.after (first ++ second) := by
  simp [after]

theorem release_append_output (operators : List Operator) (output earlier : List Token) :
    release operators (output ++ earlier) = release operators output ++ earlier := by
  simp [release]

/-- **One token.** -/
theorem step_after (yard : Yard) (earlier : List Token) (t : Token) :
    (yard.after earlier).step t = (·.after earlier) <$> yard.step t := by
  cases t with
  | num text => rfl
  | op o => simp [step, after, release_append_output]
  | lparen => rfl
  | rparen =>
    rw [step, step, after]
    cases yard.enclosing with
    | nil => rfl
    | cons outer enclosing => simp [after, release_append_output]

/-- **A list of tokens.** -/
theorem foldlM_after (tokens : List Token) (earlier : List Token) :
    ∀ yard : Yard,
      tokens.foldlM step (yard.after earlier) = (·.after earlier) <$> tokens.foldlM step yard := by
  induction tokens with
  | nil => exact fun yard => rfl
  | cons t tokens ih =>
    intro yard
    rw [List.foldlM_cons, List.foldlM_cons, step_after]
    cases yard.step t with
    | error e => rfl
    | ok middle => exact ih middle

/-- **The end.**  What went out before stands in front of the sorted list. -/
theorem finish_after (yard : Yard) (earlier : List Token) :
    (yard.after earlier).finish = (earlier ++ ·) <$> yard.finish := by
  rw [finish, finish, after]
  cases yard.enclosing with
  | nil => simp [release_append_output]
  | cons outer enclosing => rfl

/-- The end of a run that may fail. -/
theorem bind_finish_after (outcome : Except CalcError Yard) (earlier : List Token) :
    ((·.after earlier) <$> outcome) >>= finish = (earlier ++ ·) <$> (outcome >>= finish) := by
  cases outcome with
  | error e => rfl
  | ok yard => exact finish_after yard earlier

/-! ## 2. Any output -/

/-- Any output can have gone out before. -/
theorem eq_after (yard : Yard) (output : List Token) :
    { yard with output := output } = ({ yard with output := [] } : Yard).after output.reverse := by
  simp [after]

/-- What a token sends out, and what waits behind it, is the same after any output. -/
theorem step_of_output {yard next : Yard} {t : Token} (h : yard.step t = .ok next) :
    ∃ added, next.output = added ++ yard.output ∧ ∀ output,
      { yard with output := output }.step t = .ok { next with output := added ++ output } := by
  have hbare : ∀ output, { yard with output := output }.step t =
      (·.after output.reverse) <$> ({ yard with output := [] } : Yard).step t := by
    intro output
    rw [eq_after, step_after]
  obtain ⟨bare, hstep, rfl⟩ := map_eq_ok_iff.mp ((hbare yard.output).symm.trans h)
  refine ⟨bare.output, by simp [after], ?_⟩
  intro output
  rw [hbare, hstep]
  simp [after]

/-- So it is with what is left at the end. -/
theorem finish_of_output {yard : Yard} {p : List Token} (h : yard.finish = .ok p) :
    ∃ added, p = yard.output.reverse ++ added ∧ ∀ output,
      { yard with output := output }.finish = .ok (output.reverse ++ added) := by
  have hbare : ∀ output, { yard with output := output }.finish =
      (output.reverse ++ ·) <$> ({ yard with output := [] } : Yard).finish := by
    intro output
    rw [eq_after, finish_after]
  obtain ⟨added, hfinish, rfl⟩ := map_eq_ok_iff.mp ((hbare yard.output).symm.trans h)
  refine ⟨added, rfl, ?_⟩
  intro output
  rw [hbare, hfinish, map_ok]

end PostfixCalculator.Yard
