/-
# What the strict policy accepts

The strict policy looks at the postfix form only: it counts, and a list that is in balance is
evaluated, in whatever order its tokens came.  So `1 2 +` is accepted, and is no sentence of
the infix grammar (`postfix_order_accepted`).

What goes wrong is always the same.  An accepted list has one number more than it has
operators, for sorting keeps its tokens, and its parentheses match.  If besides no two
operands are side by side, there is just one way for the numbers to get the operators between
them, and the list is a sentence (`infix_accepted_iff_operands_apart`).
-/
import PostfixCalculator.Proofs.Expr.Derivation
import PostfixCalculator.Proofs.Postfix.Account

namespace PostfixCalculator

/-- What can be sorted into a list in balance, and keeps its operands apart, is a sentence. -/
theorem writes_of_balanced {tokens p : List Token} (hsort : Postfix.ofInfix tokens = .ok p)
    (hbalance : Postfix.checkBalance p = .ok ()) (hapart : Token.OperandsApart tokens) :
    ∃ e, Writes tokens e := by
  have hcount : tokens.countP Token.isNumber = tokens.countP Token.isOperator + 1 := by
    rw [← Postfix.countP_of_ofInfix hsort fun _ => Or.inl,
      ← Postfix.countP_of_ofInfix hsort fun _ => Or.inr]
    exact Postfix.countP_of_balanced hbalance
  exact writes_of_alternate (Token.alternate_of_countP_eq hapart (by simp) hcount) hsort

/-- **Of what the strict policy accepts, just the lists without operands side by side are
sentences of the infix grammar.** -/
theorem infix_accepted_iff_operands_apart (settings : Settings) {expression : String}
    {tokens : List Token} {r : Result}
    (hscan : Token.scan settings.lexicon expression = .ok tokens)
    (h : calculate { settings with policy := .strict } expression = .ok r) :
    (∃ e, Writes tokens e) ↔ Token.OperandsApart tokens := by
  constructor
  · rintro ⟨e, he⟩
    exact Token.operandsApart_of_alternate he.alternate
  · intro hapart
    obtain ⟨p, hp⟩ := ofExpression_of_calculate h
    obtain ⟨tokens', hscan', hsort⟩ := Postfix.ofExpression_eq_ok_iff.mp hp
    obtain rfl : tokens' = tokens := Except.ok.inj (hscan'.symm.trans hscan)
    have hanswer : Result.toAnswer <$> calculate { settings with policy := .strict } expression =
        answer { settings with policy := .strict } p := toAnswer_calculate hp
    rw [h, map_ok] at hanswer
    exact writes_of_balanced hsort (balanced_of_answer hanswer.symm) hapart

/-- `(1+2)*3` is accepted, and is a sentence. -/
theorem infix_accepted_of_product :
    (calculate { policy := .strict } "(1+2)*3").toOption.isSome = true ∧
      ∃ e, Writes [.lparen, .num "1", .op .plus, .num "2", .rparen, .op .times, .num "3"] e := by
  have hscan : Token.scan .lenient "(1+2)*3" =
      .ok [.lparen, .num "1", .op .plus, .num "2", .rparen, .op .times, .num "3"] :=
    eq_ok_of_toOption (by decide +kernel)
  have haccepted : (calculate { policy := .strict } "(1+2)*3").toOption.isSome = true := by
    decide +kernel
  obtain ⟨r, hr⟩ := Option.isSome_iff_exists.mp haccepted
  refine ⟨haccepted, ?_⟩
  exact (infix_accepted_iff_operands_apart { policy := .strict } hscan (eq_ok_of_toOption hr)).mpr
    (Token.operandsApart_of_alternate (show Token.alternate true _ = true from rfl))

/-- **Postfix order is accepted**, too: `1 2 +` has a value under the strict policy, and is no
sentence of the infix grammar. -/
theorem postfix_order_accepted :
    (Token.scan .lenient "1 2 +").toOption = some [.num "1", .num "2", .op .plus] ∧
      (calculate { policy := .strict } "1 2 +").toOption.map (·.display) = some "=3.00" ∧
      ¬ ∃ e, Writes [.num "1", .num "2", .op .plus] e := by
  refine ⟨by decide +kernel, by decide +kernel, ?_⟩
  rintro ⟨e, he⟩
  exact absurd he.alternate (by decide)

end PostfixCalculator
