/-
# Sorting keeps the tokens

Sorting moves operators back and does nothing else: what comes out of the yard is what went
in, the parentheses left out, with the operators deferred (`Postfix.deferred_of_ofInfix`).  In
particular it is a permutation of what went in (`Postfix.perm_of_ofInfix`).

A token that has gone in is at any time either out or on some siding.  So all of them can be
lined up, those that are out in front and those that wait behind them (`Yard.line`).  A token
joins the line at its end.  A number then passes all who wait, and an operator that comes in
changes the order among them (`Yard.deferred_step`); a parenthesis changes nothing.
-/
import PostfixCalculator.Postfix.Yard
import PostfixCalculator.Proofs.Token.Deferral

namespace PostfixCalculator

/-- Is it a parenthesis? -/
def Token.isParen : Token → Bool
  | .lparen | .rparen => true
  | _ => false

/-- The tokens that are no parentheses. -/
def Token.unparenthesized (tokens : List Token) : List Token := tokens.filter (!·.isParen)

/-! ## 1. The line -/

namespace Yard

/-- What has gone out, in order, and behind it what waits, the innermost level first. -/
def line (yard : Yard) : List Token :=
  yard.output.reverse ++ (yard.siding ++ yard.enclosing.flatten).map Token.op

/-- Operators that go out stay where they are in the line. -/
theorem line_release (operators : List Operator) (output : List Token) (siding : List Operator)
    (enclosing : List (List Operator)) :
    line ⟨release operators output, siding, enclosing⟩ =
      output.reverse ++ (operators ++ (siding ++ enclosing.flatten)).map Token.op := by
  simp [line, release]

/-- **One step**: the token joins the line, unless it is a parenthesis, and operators are moved
back. -/
theorem deferred_step {yard next : Yard} {t : Token} (h : yard.step t = .ok next) :
    Token.Deferred (yard.line ++ Token.unparenthesized [t]) next.line := by
  cases t with
  | num text =>
    obtain rfl := Except.ok.inj h
    have hpass := Token.Deferred.pass_operators (yard.siding ++ yard.enclosing.flatten)
      (.num text) []
    rw [List.append_nil] at hpass
    simpa [line, Token.unparenthesized, Token.isParen] using hpass.append_left yard.output.reverse
  | op o =>
    obtain rfl := Except.ok.inj h
    have hsiding : yard.siding.takeWhile (·.goesBefore o) ++
        (yard.siding.dropWhile (·.goesBefore o) ++ yard.enclosing.flatten) =
          yard.siding ++ yard.enclosing.flatten := by
      rw [← List.append_assoc, List.takeWhile_append_dropWhile]
    have hperm : (yard.siding ++ yard.enclosing.flatten ++ [o]).Perm
        (yard.siding.takeWhile (·.goesBefore o) ++
          o :: (yard.siding.dropWhile (·.goesBefore o) ++ yard.enclosing.flatten)) := by
      rw [← hsiding]
      exact (List.perm_append_singleton o _).trans List.perm_middle.symm
    have hline : yard.line ++ Token.unparenthesized [.op o] = yard.output.reverse ++
        (yard.siding ++ yard.enclosing.flatten ++ [o]).map Token.op := by
      simp [line, Token.unparenthesized, Token.isParen]
    rw [hline, line_release]
    exact (Token.Deferred.of_perm hperm).append_left _
  | lparen =>
    obtain rfl := Except.ok.inj h
    rw [Token.unparenthesized, List.filter_cons_of_neg (by simp [Token.isParen]),
      List.filter_nil, List.append_nil]
    exact .refl _
  | rparen =>
    obtain ⟨outer, enclosing, henclosing, rfl⟩ := step_rparen_eq_ok_iff.mp h
    have hline : yard.line ++ Token.unparenthesized [.rparen] =
        line ⟨release yard.siding yard.output, outer, enclosing⟩ := by
      rw [line_release]
      simp [line, Token.unparenthesized, Token.isParen, henclosing]
    rw [hline]
    exact .refl _

/-- **A run**: all of its tokens but the parentheses join the line, and operators are moved
back. -/
theorem deferred_foldlM {tokens : List Token} {yard last : Yard}
    (h : tokens.foldlM step yard = .ok last) :
    Token.Deferred (yard.line ++ Token.unparenthesized tokens) last.line := by
  induction h using foldlM_ok_induction with
  | nil =>
    rw [Token.unparenthesized, List.filter_nil, List.append_nil]
    exact .refl _
  | @cons t tokens yard middle hstep _ ih =>
    have hsplit : Token.unparenthesized (t :: tokens) =
        Token.unparenthesized [t] ++ Token.unparenthesized tokens :=
      List.filter_append [t] tokens
    rw [hsplit, ← List.append_assoc]
    exact ((deferred_step hstep).append_right _).trans ih

/-- At the end the line goes out as it stands. -/
theorem line_of_finish {yard : Yard} {p : List Token} (h : yard.finish = .ok p) :
    p = yard.line := by
  obtain ⟨henclosing, rfl⟩ := finish_eq_ok_iff.mp h
  simp [line, release, henclosing]

end Yard

/-! ## 2. Sorted lists -/

namespace Postfix

/-- **Sorting moves operators back**, and drops the parentheses. -/
theorem deferred_of_ofInfix {tokens p : List Token} (h : ofInfix tokens = .ok p) :
    Token.Deferred (Token.unparenthesized tokens) p := by
  obtain ⟨yard, hrun, hfinish⟩ := bind_eq_ok_iff.mp h
  rw [Yard.line_of_finish hfinish]
  exact Yard.deferred_foldlM hrun

/-- **Sorting keeps the tokens**, the parentheses apart: it loses none, adds none and doubles
none. -/
theorem perm_of_ofInfix {tokens p : List Token} (h : ofInfix tokens = .ok p) :
    p.Perm (Token.unparenthesized tokens) :=
  (deferred_of_ofInfix h).perm

/-- What is in the sorted list was in the expression. -/
theorem mem_of_mem_ofInfix {tokens p : List Token} (h : ofInfix tokens = .ok p) {t : Token}
    (ht : t ∈ p) : t ∈ tokens :=
  (List.mem_filter.mp ((perm_of_ofInfix h).mem_iff.mp ht)).1

/-- No parenthesis is left in a sorted list. -/
theorem isParen_of_mem_ofInfix {tokens p : List Token} (h : ofInfix tokens = .ok p) {t : Token}
    (ht : t ∈ p) : t.isParen = false := by
  have hmem := (List.mem_filter.mp ((perm_of_ofInfix h).mem_iff.mp ht)).2
  simpa using hmem

end Postfix

end PostfixCalculator
