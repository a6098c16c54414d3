/-
# Turns and matched parentheses make a sentence

A list in which operands and operators take turns, and in which the parentheses match, is a
sentence of the infix grammar (`writes_of_alternate`).  The yard matches the parentheses, so
it also tells when there is nothing amiss with them.

The derivation is found from left to right.  At each level of parentheses, what has been read
is a sum, or it is a sum that lacks its last operand (`Grouped`, `Begun`); an operand that
comes in, be it a number or a level that is closed, goes into the last product of the sum.
The levels around stay as they were when a parenthesis opened (`Enclosing`), one for each
siding that the yard has put aside, and this is what one token and then a whole list keeps
(`Read.step`, `Read.foldlM`).
-/
import PostfixCalculator.Postfix.Yard
import PostfixCalculator.Proofs.Expr.Alternation

namespace PostfixCalculator

/-! ## 1. One level -/

/-- What has been read of a level is a product, or a sum whose last operand is a product. -/
inductive Grouped : List Token → Prop where
  | product {level : List Token} {e : Expr} : Derives 2 level e → Grouped level
  | sum (o : Operator) {left right : List Token} {l r : Expr} : o.precedence = 1 →
    Derives 1 left l → Derives 2 right r → Grouped (left ++ .op o :: right)

/-- What has been read of a level lacks an operand. -/
def Begun (level : List Token) : Prop :=
  ∀ (operand : List Token) (e : Expr), Derives 3 operand e → Grouped (level ++ operand)

theorem Operator.precedence_cases (o : Operator) : o.precedence = 1 ∨ o.precedence = 2 := by
  cases o with
  | plus => exact Or.inl rfl
  | minus => exact Or.inl rfl
  | times => exact Or.inr rfl
  | divide => exact Or.inr rfl

theorem Derives.sum {o : Operator} (ho : o.precedence = 1) {left right : List Token} {l r : Expr}
    (hl : Derives 1 left l) (hr : Derives 2 right r) :
    Derives 1 (left ++ .op o :: right) (.binary o l r) := by
  rw [← ho] at hl ⊢
  exact .binary o hl (by rwa [ho])

theorem Derives.product {o : Operator} (ho : o.precedence = 2) {left right : List Token}
    {l r : Expr} (hl : Derives 2 left l) (hr : Derives 3 right r) :
    Derives 2 (left ++ .op o :: right) (.binary o l r) := by
  rw [← ho] at hl ⊢
  exact .binary o hl (by rwa [ho])

theorem Begun.nil : Begun [] := fun _ _ h => .product h.lower

namespace Grouped

variable {level : List Token}

theorem writes (h : Grouped level) : ∃ e, Writes level e := by
  cases h with
  | product h => exact ⟨_, h.lower⟩
  | sum o ho hl hr => exact ⟨_, Derives.sum ho hl hr⟩

/-- Behind an operator an operand is due.  One that binds loosely ends the sum before it, one
that binds tightly goes on with the last product. -/
theorem op (h : Grouped level) (o : Operator) : Begun (level ++ [.op o]) := by
  intro operand e hoperand
  rw [List.append_assoc, List.singleton_append]
  rcases o.precedence_cases with ho | ho
  · obtain ⟨l, hl⟩ := h.writes
    exact .sum o ho hl hoperand.lower
  · cases h with
    | product h => exact .product (Derives.product ho h hoperand)
    | sum o' ho' hl hr =>
      rw [List.append_assoc, List.cons_append]
      exact .sum o' ho' hl (Derives.product ho hr hoperand)

end Grouped

/-! ## 2. All levels -/

/-- What stands before the current level: the levels around it, each up to the parenthesis
that opened the next one. -/
inductive Enclosing : Nat → List Token → Prop where
  | outermost : Enclosing 0 []
  | inside {depth : Nat} {before level : List Token} :
    Enclosing depth before → Begun level → Enclosing (depth + 1) (before ++ level ++ [.lparen])

/-- The tokens that have been read, with as many levels around the current one; an operand is
due, or none is. -/
inductive Read : Bool → Nat → List Token → Prop where
  | begun {depth : Nat} {before level : List Token} :
    Enclosing depth before → Begun level → Read true depth (before ++ level)
  | grouped {depth : Nat} {before level : List Token} :
    Enclosing depth before → Grouped level → Read false depth (before ++ level)

namespace Read

variable {due : Bool} {depth : Nat} {tokens : List Token}

theorem nil : Read true 0 [] := .begun .outermost .nil

/-- An operand that is due comes in. -/
theorem operand (h : Read true depth tokens) {more : List Token} {e : Expr}
    (hmore : Derives 3 more e) : Read false depth (tokens ++ more) := by
  cases h with
  | begun hbefore hlevel =>
    rw [List.append_assoc]
    exact .grouped hbefore (hlevel _ _ hmore)

theorem op (h : Read false depth tokens) (o : Operator) :
    Read true depth (tokens ++ [.op o]) := by
  cases h with
  | grouped hbefore hlevel =>
    rw [List.append_assoc]
    exact .begun hbefore (hlevel.op o)

theorem lparen (h : Read true depth tokens) : Read true (depth + 1) (tokens ++ [.lparen]) := by
  cases h with
  | begun hbefore hlevel =>
    rw [← List.append_nil (_ ++ _)]
    exact .begun (.inside hbefore hlevel) .nil

/-- A level that is closed is an operand of the level around it. -/
theorem rparen (h : Read false (depth + 1) tokens) : Read false depth (tokens ++ [.rparen]) := by
  cases h with
  | grouped hbefore hlevel =>
    cases hbefore with
    | @inside _ before outer houter hbegun =>
      obtain ⟨e, he⟩ := hlevel.writes
      have hclosed := (Read.begun houter hbegun).operand (Derives.paren he)
      simpa using hclosed

/-- **One token** that keeps the turns. -/
theorem step {yard yard' : Yard} {t : Token} (h : Read due yard.enclosing.length tokens)
    (hturn : t.startsOperand = due) (hstep : yard.step t = .ok yard') :
    Read (!t.endsOperand) yard'.enclosing.length (tokens ++ [t]) := by
  subst hturn
  cases t with
  | num text =>
    obtain rfl := Except.ok.inj hstep
    exact h.operand (.num text)
  | op o =>
    obtain rfl := Except.ok.inj hstep
    exact h.op o
  | lparen =>
    obtain rfl := Except.ok.inj hstep
    exact h.lparen
  | rparen =>
    obtain ⟨outer, enclosing, henclosing, rfl⟩ := Yard.step_rparen_eq_ok_iff.mp hstep
    rw [henclosing] at h
    exact h.rparen

/-- **A list** that keeps the turns. -/
theorem foldlM {more : List Token} :
    ∀ {due : Bool} {yard yard' : Yard} {tokens : List Token},
      Read due yard.enclosing.length tokens → Token.alternate due more = true →
      more.foldlM Yard.step yard = .ok yard' →
      Read false yard'.enclosing.length (tokens ++ more) := by
  induction more with
  | nil =>
    intro due yard yard' tokens h hturns hrun
    obtain rfl := Except.ok.inj hrun
    obtain rfl : due = false := by simpa [Token.alternate] using hturns
    rwa [List.append_nil]
  | cons t more ih =>
    intro due yard yard' tokens h hturns hrun
    obtain ⟨hturn, hturns⟩ := Token.alternate_cons.mp hturns
    obtain ⟨middle, hstep, hrun⟩ := bind_eq_ok_iff.mp hrun
    have hread := ih (h.step hturn hstep) hturns hrun
    rwa [List.append_assoc] at hread

end Read

/-! ## 3. Sentences -/

/-- **Turns and matched parentheses make a sentence.** -/
theorem writes_of_alternate {tokens p : List Token} (hturns : Token.alternate true tokens = true)
    (hsort : Postfix.ofInfix tokens = .ok p) : ∃ e, Writes tokens e := by
  obtain ⟨yard, hrun, hfinish⟩ := bind_eq_ok_iff.mp hsort
  have hread : Read false yard.enclosing.length ([] ++ tokens) :=
    Read.foldlM (show Read true ({} : Yard).enclosing.length [] from Read.nil) hturns hrun
  rw [List.nil_append] at hread
  rw [(Yard.finish_eq_ok_iff.mp hfinish).1] at hread
  cases hread with
  | grouped hbefore hlevel =>
    cases hbefore with
    | outermost => exact hlevel.writes

end PostfixCalculator
