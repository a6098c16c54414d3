/-
# Parentheses that match

The yard keeps one level for each parenthesis that is open, so the number of the levels around
the current one is the number of opening parentheses that have come in, less the closing ones
(`Yard.depth_step`, `Yard.depth_foldlM`).  Of what comes in nothing else is refused than a
closing parenthesis for which none is open: a run fails exactly if some front of it closes
more parentheses than the yard had levels and the front has opened
(`Yard.foldlM_eq_error_iff`).

Together this says when a list can be sorted (`sorting_fails_iff_unmatched`).  The parentheses
decide, and the order of operands and operators has no part in it.
-/
import PostfixCalculator.Proofs.Calculation
import Mathlib.Data.List.Infix

namespace PostfixCalculator

namespace Token

/-- Some parenthesis has no partner: a front of the list closes more than it opens, or the
whole list does not close as many as it opens. -/
def Unmatched (tokens : List Token) : Prop :=
  (∃ front, front <+: tokens ∧ front.count .lparen < front.count .rparen) ∨
    tokens.count .lparen ≠ tokens.count .rparen

instance (tokens : List Token) : Decidable (Unmatched tokens) :=
  decidable_of_iff
    ((∃ front ∈ tokens.inits, front.count .lparen < front.count .rparen) ∨
      tokens.count .lparen ≠ tokens.count .rparen)
    (by simp only [List.mem_inits, Unmatched])

end Token

namespace Yard

variable {yard next : Yard}

/-! ## 1. The depth -/

/-- **One token**: a level more for an opening parenthesis, one less for a closing one. -/
theorem depth_step {t : Token} (h : yard.step t = .ok next) :
    next.enclosing.length + [t].count .rparen = yard.enclosing.length + [t].count .lparen := by
  cases t with
  | num text =>
    obtain rfl := Except.ok.inj h
    rfl
  | op o =>
    obtain rfl := Except.ok.inj h
    rfl
  | lparen =>
    obtain rfl := Except.ok.inj h
    rfl
  | rparen =>
    obtain ⟨outer, enclosing, henclosing, rfl⟩ := step_rparen_eq_ok_iff.mp h
    rw [henclosing]
    rfl

/-- **A list**: the levels are those that were there, with those that were opened, without
those that were closed. -/
theorem depth_foldlM {tokens : List Token} (h : tokens.foldlM step yard = .ok next) :
    next.enclosing.length + tokens.count .rparen =
      yard.enclosing.length + tokens.count .lparen := by
  induction h using foldlM_ok_induction with
  | nil => rfl
  | cons hstep _ ih =>
    have hfirst := depth_step hstep
    rw [← List.singleton_append, List.count_append, List.count_append]
    omega

/-! ## 2. Failures -/

/-- **A run fails where a parenthesis closes no level.** -/
theorem foldlM_eq_error_iff {tokens : List Token} {e : CalcError} :
    ∀ {yard : Yard}, tokens.foldlM step yard = .error e ↔ e = .mismatchedParenthesis ∧
      ∃ front, front <+: tokens ∧
        yard.enclosing.length + front.count .lparen < front.count .rparen := by
  induction tokens with
  | nil =>
    intro yard
    simp [pure, Except.pure]
  | cons t tokens ih =>
    intro yard
    rw [List.foldlM_cons]
    cases hstep : yard.step t with
    | error e' =>
      obtain ⟨rfl, hlevels, rfl⟩ := step_eq_error_iff.mp hstep
      rw [error_bind, Except.error.injEq, eq_comm]
      refine ⟨fun h => ⟨h, [.rparen], by simp, by simp [hlevels]⟩, And.left⟩
    | ok middle =>
      have hdepth := depth_step hstep
      rw [ok_bind, ih]
      refine and_congr_right fun _ => ?_
      constructor
      · rintro ⟨front, hfront, hclosed⟩
        refine ⟨t :: front, (List.prefix_cons_inj t).mpr hfront, ?_⟩
        rw [← List.singleton_append, List.count_append, List.count_append]
        omega
      · rintro ⟨front, hfront, hclosed⟩
        rcases List.prefix_cons_iff.mp hfront with rfl | ⟨rest, rfl, hrest⟩
        · exact absurd hclosed (Nat.not_lt_zero _)
        · refine ⟨rest, hrest, ?_⟩
          rw [← List.singleton_append, List.count_append, List.count_append] at hclosed
          omega

end Yard

/-! ## 3. Sorting -/

/-- From an empty yard the levels that are left at the end are the parentheses that are open. -/
theorem Yard.enclosing_eq_nil_iff {tokens : List Token} {yard : Yard}
    (h : tokens.foldlM step {} = .ok yard) :
    yard.enclosing = [] ↔ tokens.count .lparen = tokens.count .rparen := by
  have hdepth : yard.enclosing.length + tokens.count .rparen = 0 + tokens.count .lparen :=
    depth_foldlM h
  rw [← List.length_eq_zero_iff]
  omega

/-- A list fails to be sorted just if its parentheses do not match. -/
theorem Postfix.ofInfix_eq_error_iff {tokens : List Token} {e : CalcError} :
    ofInfix tokens = .error e ↔ e = .mismatchedParenthesis ∧ Token.Unmatched tokens := by
  have hfront : ∀ e, tokens.foldlM Yard.step {} = .error e ↔ e = .mismatchedParenthesis ∧
      ∃ front, front <+: tokens ∧ 0 + front.count .lparen < front.count .rparen :=
    fun e => Yard.foldlM_eq_error_iff
  simp only [Nat.zero_add] at hfront
  rw [ofInfix, bind_eq_error_iff, hfront]
  constructor
  · rintro (⟨he, hclosed⟩ | ⟨yard, hrun, hfinish⟩)
    · exact ⟨he, Or.inl hclosed⟩
    · obtain ⟨hopen, he⟩ := Yard.finish_eq_error_iff.mp hfinish
      exact ⟨he, Or.inr fun hcount => hopen ((Yard.enclosing_eq_nil_iff hrun).mpr hcount)⟩
  · rintro ⟨rfl, hclosed | hcount⟩
    · exact Or.inl ⟨rfl, hclosed⟩
    · cases hrun : tokens.foldlM Yard.step {} with
      | error e => exact Or.inl ⟨rfl, ((hfront e).mp hrun).2⟩
      | ok yard =>
        have hopen : yard.enclosing ≠ [] := fun h =>
          hcount ((Yard.enclosing_eq_nil_iff hrun).mp h)
        exact Or.inr ⟨yard, rfl, Yard.finish_eq_error_iff.mpr ⟨hopen, rfl⟩⟩

/-- **Sorting fails exactly on parentheses that do not match**, with one error, and sorts
everything else, in whatever order its operands and operators come. -/
theorem sorting_fails_iff_unmatched (tokens : List Token) :
    (∀ e, Postfix.ofInfix tokens = .error e ↔
        e = .mismatchedParenthesis ∧ Token.Unmatched tokens) ∧
      ((∃ p, Postfix.ofInfix tokens = .ok p) ↔ ¬ Token.Unmatched tokens) := by
  refine ⟨fun e => Postfix.ofInfix_eq_error_iff, ?_⟩
  cases hsort : Postfix.ofInfix tokens with
  | error e =>
    have hunmatched := (Postfix.ofInfix_eq_error_iff.mp hsort).2
    exact ⟨fun ⟨p, hp⟩ => absurd hp nofun, fun h => absurd hunmatched h⟩
  | ok p =>
    refine ⟨fun _ hunmatched => ?_, fun _ => ⟨p, rfl⟩⟩
    have herror := Postfix.ofInfix_eq_error_iff.mpr ⟨rfl, hunmatched⟩
    rw [hsort] at herror
    exact absurd herror nofun

/-- `)(` has as many of both, and no partners. -/
example : Token.Unmatched [.rparen, .lparen] := by decide

end PostfixCalculator
