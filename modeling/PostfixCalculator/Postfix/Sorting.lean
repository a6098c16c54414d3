/-
# The yard sorts sentences

A sentence of the infix grammar comes out of the yard as the postfix form of the expression
that it writes (`Postfix.ofInfix_of_writes`).

The argument is an induction on the derivation.  A list of level `n` that enters while only
operators of a precedence below `n` wait leaves these where they are: what it adds to the
siding has a precedence of at least `n`, and once that is released the output has grown by
the postfix form (`Derives.foldlM_step`).  An operator of precedence `n` that comes next
releases exactly what was added, and waits on top of the others.
-/
import PostfixCalculator.Expr
import PostfixCalculator.Postfix.Yard

namespace PostfixCalculator

/-! ## 1. What an operator releases -/

/-- Of the waiting operators, those on top that bind at least as tightly go, and the looser
ones below them stay. -/
theorem takeWhile_goesBefore {o : Operator} {tight loose : List Operator}
    (ht : ∀ q ∈ tight, o.precedence ≤ q.precedence)
    (hl : ∀ q ∈ loose, q.precedence < o.precedence) :
    (tight ++ loose).takeWhile (·.goesBefore o) = tight ∧
      (tight ++ loose).dropWhile (·.goesBefore o) = loose := by
  induction tight with
  | nil =>
    cases loose with
    | nil => exact ⟨rfl, rfl⟩
    | cons q loose =>
      have hq : q.goesBefore o = false := by
        rw [← Bool.not_eq_true, Operator.goesBefore_iff]
        exact Nat.not_le_of_lt (hl q (by simp))
      simp [hq]
  | cons q tight ih =>
    have hq : q.goesBefore o = true := Operator.goesBefore_iff.mpr (ht q (by simp))
    obtain ⟨htake, hdrop⟩ := ih (fun q' hq' => ht q' (by simp [hq']))
    simp [hq, htake, hdrop]

/-- **An operator that comes in** sends out the tighter ones, and waits on top of the looser
ones. -/
theorem Yard.step_op {o : Operator} {tight loose : List Operator}
    (ht : ∀ q ∈ tight, o.precedence ≤ q.precedence)
    (hl : ∀ q ∈ loose, q.precedence < o.precedence) (output : List Token)
    (enclosing : List (List Operator)) :
    Yard.step ⟨output, tight ++ loose, enclosing⟩ (.op o) =
      .ok ⟨Yard.release tight output, o :: loose, enclosing⟩ := by
  obtain ⟨htake, hdrop⟩ := takeWhile_goesBefore ht hl
  simp only [Yard.step, htake, hdrop]

/-! ## 2. Sentences -/

/-- **A list of level `n` is one operand.**  It leaves the operators that waited before it,
all of a precedence below `n`, and adds its postfix form to the output as soon as the
operators that it added are released. -/
theorem Derives.foldlM_step {n : Nat} {tokens : List Token} {e : Expr} (h : Derives n tokens e) :
    ∀ yard : Yard, (∀ o ∈ yard.siding, o.precedence < n) →
      ∃ added output, (∀ o ∈ added, n ≤ o.precedence) ∧
        tokens.foldlM Yard.step yard = .ok ⟨output, added ++ yard.siding, yard.enclosing⟩ ∧
        Yard.release added output = e.postorder.reverse ++ yard.output := by
  induction h with
  | num text =>
    intro yard _
    exact ⟨[], .num text :: yard.output, by simp, rfl, rfl⟩
  | @paren tokens e _ ih =>
    intro yard _
    obtain ⟨added, output, _, hrun, hrel⟩ :=
      ih ⟨yard.output, [], yard.siding :: yard.enclosing⟩ (by simp)
    refine ⟨[], Yard.release added output, by simp, ?_, hrel⟩
    have hstart : (Token.lparen :: tokens ++ [Token.rparen]).foldlM Yard.step yard =
        (tokens ++ [Token.rparen]).foldlM Yard.step
          ⟨yard.output, [], yard.siding :: yard.enclosing⟩ := rfl
    rw [hstart, List.foldlM_append, hrun, List.append_nil]
    rfl
  | @binary o left right l r _ _ ihl ihr =>
    intro yard hyard
    obtain ⟨addedL, outputL, htight, hrunL, hrelL⟩ := ihl yard hyard
    have hwait : ∀ q ∈ o :: yard.siding, q.precedence < o.precedence + 1 := by
      intro q hq
      rcases List.mem_cons.mp hq with rfl | hq
      · exact Nat.lt_succ_self _
      · exact Nat.lt_succ_of_lt (hyard q hq)
    obtain ⟨addedR, outputR, htighter, hrunR, hrelR⟩ :=
      ihr ⟨Yard.release addedL outputL, o :: yard.siding, yard.enclosing⟩ hwait
    refine ⟨addedR ++ [o], outputR, ?_, ?_, ?_⟩
    · intro q hq
      rcases List.mem_append.mp hq with hq | hq
      · exact Nat.le_of_succ_le (htighter q hq)
      · exact Nat.le_of_eq (congrArg Operator.precedence (List.mem_singleton.mp hq).symm)
    · have hstep := Yard.step_op htight hyard outputL yard.enclosing
      rw [List.foldlM_append, hrunL, List.append_assoc]
      exact (congrArg (· >>= right.foldlM Yard.step) hstep).trans hrunR
    · rw [Yard.release_append, hrelR, hrelL]
      simp [Expr.postorder, Yard.release]
  | lower _ ih =>
    intro yard hyard
    obtain ⟨added, output, htight, hrun, hrel⟩ :=
      ih yard (fun o ho => Nat.lt_succ_of_lt (hyard o ho))
    exact ⟨added, output, fun o ho => Nat.le_of_succ_le (htight o ho), hrun, hrel⟩

/-- **Sorting a sentence gives its postfix form.** -/
theorem Postfix.ofInfix_of_writes {tokens : List Token} {e : Expr} (h : Writes tokens e) :
    Postfix.ofInfix tokens = .ok e.postorder := by
  obtain ⟨added, output, _, hrun, hrel⟩ := h.foldlM_step {} (by simp)
  have hfinish : Yard.finish ⟨output, added ++ [], []⟩ = .ok e.postorder := by
    simp [Yard.finish, hrel]
  rw [ofInfix, hrun]
  exact hfinish

end PostfixCalculator
