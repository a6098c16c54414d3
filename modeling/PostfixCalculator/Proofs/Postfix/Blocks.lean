/-
# Blocks in parentheses

A number goes straight out and leaves the yard as it was.  So does a whole block in
parentheses, whatever stands in it, as long as the block can be sorted: an opening parenthesis
puts what waits aside, nothing that is put aside has a say in how the block is sorted
(`Yard.foldlM_within`), and the closing parenthesis sends out what still waits in the block,
as the end of a list does.  Both are operands to the yard (`Yard.Yields`).

What stands around an operand cannot tell which operand it is.  It is refused with any operand
or with none, and otherwise every operand comes out at one place (`Postfix.ofInfix_context`).
That place is known from a number that occurs nowhere else (`block_sorted_as_operand`).
-/
import PostfixCalculator.Proofs.Postfix.Conservation
import PostfixCalculator.Proofs.Postfix.Earlier

namespace PostfixCalculator

namespace Yard

/-! ## 1. What is put aside -/

/-- The yard, with these levels around all of its own. -/
def within (yard : Yard) (levels : List (List Operator)) : Yard :=
  { yard with enclosing := yard.enclosing ++ levels }

/-- **One token** that can be taken in can be taken in within other levels. -/
theorem step_within {yard next : Yard} {t : Token} (h : yard.step t = .ok next)
    (levels : List (List Operator)) : (yard.within levels).step t = .ok (next.within levels) := by
  cases t with
  | num text =>
    obtain rfl := Except.ok.inj h
    rfl
  | op o =>
    obtain rfl := Except.ok.inj h
    rfl
  | lparen =>
    obtain rfl := Except.ok.inj h
    rfl
  | rparen =>
    obtain ⟨outer, enclosing, henclosing, rfl⟩ := step_rparen_eq_ok_iff.mp h
    refine step_rparen_eq_ok_iff.mpr ⟨outer, enclosing ++ levels, ?_, rfl⟩
    rw [within, henclosing, List.cons_append]

/-- **A list of tokens.** -/
theorem foldlM_within {tokens : List Token} (levels : List (List Operator)) {yard last : Yard}
    (h : tokens.foldlM step yard = .ok last) :
    tokens.foldlM step (yard.within levels) = .ok (last.within levels) := by
  induction h using foldlM_ok_induction with
  | nil => rfl
  | cons hstep _ ih => exact bind_eq_ok_iff.mpr ⟨_, step_within hstep levels, ih⟩

/-! ## 2. Operands -/

/-- The tokens are an operand to the yard: it sends out what they yield, and is otherwise as it
was before them. -/
def Yields (tokens sent : List Token) : Prop :=
  ∀ yard : Yard, tokens.foldlM step yard = .ok { yard with output := sent.reverse ++ yard.output }

/-- No token at all yields nothing. -/
theorem yields_nil : Yields [] [] := fun _ => rfl

theorem yields_num (text : String) : Yields [.num text] [.num text] := fun _ => rfl

/-- **A block in parentheses yields what it is sorted into on its own.** -/
theorem yields_block {m pm : List Token} (h : Postfix.ofInfix m = .ok pm) :
    Yields (.lparen :: m ++ [.rparen]) pm := by
  intro yard
  obtain ⟨last, hrun, hfinish⟩ := bind_eq_ok_iff.mp h
  obtain ⟨henclosing, rfl⟩ := finish_eq_ok_iff.mp hfinish
  -- behind the parenthesis the yard is an empty one, but for what is around it and has gone out
  have hopened : yard.step .lparen =
      .ok ((({} : Yard).within (yard.siding :: yard.enclosing)).after yard.output.reverse) := by
    simp [step, within, after]
  have hblock := foldlM_within (yard.siding :: yard.enclosing) hrun
  have hclosed : ((last.within (yard.siding :: yard.enclosing)).after yard.output.reverse).step
      .rparen = .ok { yard with output := release last.siding last.output ++ yard.output } := by
    refine step_rparen_eq_ok_iff.mpr ⟨yard.siding, yard.enclosing, ?_, ?_⟩
    · simp [within, after, henclosing]
    · simp [within, after, release_append_output]
  rw [List.cons_append, List.foldlM_cons, hopened, ok_bind, List.foldlM_append, foldlM_after,
    hblock, map_ok, ok_bind, List.foldlM_cons, hclosed, List.reverse_reverse]
  rfl

end Yard

/-! ## 3. Contexts -/

namespace Postfix

/-- **What stands around an operand** is refused with every operand, or it is sorted with every
operand in the same way: two lists come out, and between them what the operand yields. -/
theorem ofInfix_context (a b : List Token) :
    (∃ e, ∀ tokens sent, Yard.Yields tokens sent → ofInfix (a ++ tokens ++ b) = .error e) ∨
      ∃ before after, ∀ tokens sent, Yard.Yields tokens sent →
        ofInfix (a ++ tokens ++ b) = .ok (before ++ sent ++ after) := by
  cases ha : a.foldlM Yard.step {} with
  | error e =>
    left
    refine ⟨e, fun tokens sent _ => ?_⟩
    rw [ofInfix, List.append_assoc, List.foldlM_append, ha, error_bind, error_bind]
  | ok yard =>
    have hcontext : ∀ tokens sent, Yard.Yields tokens sent → ofInfix (a ++ tokens ++ b) =
        (yard.output.reverse ++ sent ++ ·) <$>
          (b.foldlM Yard.step { yard with output := [] } >>= Yard.finish) := by
      intro tokens sent h
      rw [ofInfix, List.append_assoc, List.foldlM_append, ha, ok_bind, List.foldlM_append, h,
        ok_bind, Yard.eq_after, Yard.foldlM_after, Yard.bind_finish_after, List.reverse_append,
        List.reverse_reverse]
    cases hb : b.foldlM Yard.step { yard with output := [] } >>= Yard.finish with
    | error e =>
      left
      refine ⟨e, fun tokens sent h => ?_⟩
      rw [hcontext tokens sent h, hb, map_error]
    | ok after =>
      right
      refine ⟨yard.output.reverse, after, fun tokens sent h => ?_⟩
      rw [hcontext tokens sent h, hb, map_ok]

end Postfix

/-- **A block in parentheses is sorted as one operand**, in any context.  Where a number can
stand the block can, and it comes out in the place of the number; where the number makes for an
error, so does the block.  In particular parentheses around a whole list change nothing. -/
theorem block_sorted_as_operand {m pm : List Token} (h : Postfix.ofInfix m = .ok pm)
    (a b : List Token) {text : String} (ha : Token.num text ∉ a) (hb : Token.num text ∉ b) :
    (∀ e, Postfix.ofInfix (a ++ (.lparen :: m ++ [.rparen]) ++ b) = .error e ↔
        Postfix.ofInfix (a ++ [.num text] ++ b) = .error e) ∧
      (∀ p, Postfix.ofInfix (a ++ [.num text] ++ b) = .ok p → ∃ before after,
        p = before ++ .num text :: after ∧ .num text ∉ before ∧ .num text ∉ after ∧
          Postfix.ofInfix (a ++ (.lparen :: m ++ [.rparen]) ++ b) =
            .ok (before ++ pm ++ after)) ∧
      Postfix.ofInfix (.lparen :: m ++ [.rparen]) = .ok pm := by
  have hblock := Yard.yields_block h
  have hnumber := Yard.yields_num text
  refine ⟨?_, ?_, ?_⟩
  · intro e
    rcases Postfix.ofInfix_context a b with ⟨e', herror⟩ | ⟨before, after, hsorted⟩
    · rw [herror _ _ hblock, herror _ _ hnumber]
    · rw [hsorted _ _ hblock, hsorted _ _ hnumber]
      exact ⟨nofun, nofun⟩
  · intro p hp
    rcases Postfix.ofInfix_context a b with ⟨e', herror⟩ | ⟨before, after, hsorted⟩
    · rw [herror _ _ hnumber] at hp
      exact absurd hp nofun
    · rw [hsorted _ _ hnumber] at hp
      obtain rfl := Except.ok.inj hp
      -- without any operand the context comes out, and nothing else
      have hcontext := hsorted _ _ Yard.yields_nil
      have hforeign : Token.num text ∉ before ++ [] ++ after := by
        intro hmem
        have hcame := Postfix.mem_of_mem_ofInfix hcontext hmem
        simp [ha, hb] at hcame
      rw [List.append_nil, List.mem_append, not_or] at hforeign
      exact ⟨before, after, by simp, hforeign.1, hforeign.2, hsorted _ _ hblock⟩
  · have halone := hblock {}
    rw [Postfix.ofInfix, halone, ok_bind]
    simp [Yard.finish]

/-- In `2*(1+3)-4` the block comes out where the number does in `2*7-4`. -/
theorem block_sorted_as_operand_in_product :
    Postfix.ofInfix [.num "1", .op .plus, .num "3"] = .ok [.num "1", .num "3", .op .plus] ∧
      ∃ before after,
        [.num "2", .num "7", .op .times, .num "4", .op .minus] = before ++ .num "7" :: after ∧
          .num "7" ∉ before ∧ .num "7" ∉ after ∧
          Postfix.ofInfix [.num "2", .op .times, .lparen, .num "1", .op .plus, .num "3", .rparen,
              .op .minus, .num "4"] =
            .ok (before ++ [.num "1", .num "3", .op .plus] ++ after) := by
  have hblock : Postfix.ofInfix [.num "1", .op .plus, .num "3"] =
      .ok [.num "1", .num "3", .op .plus] := rfl
  refine ⟨hblock, ?_⟩
  exact (block_sorted_as_operand hblock [.num "2", .op .times] [.op .minus, .num "4"]
    (by decide) (by decide)).2.1 _ rfl

end PostfixCalculator
