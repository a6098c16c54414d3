/-
# The calculation of a sentence

Whoever writes a sentence of the infix grammar gets the value of the tree that the sentence
stands for, whatever is put between the tokens and whatever the settings are.  The calculation
never sees the tree, so three facts meet here.

* Operands and operators take turns in a sentence, so that every layout of it is read back as
  it was meant (`Writes.alternate`, `Layout.scan_text`).
* The yard brings a sentence into the postfix form of its tree (`Postfix.ofInfix_of_writes`).
* The evaluation of that form is the recursion on the tree (`Postfix.evaluate_postorder`).

What remains of the causes of failure are those of the recursion: a number token that denotes
no number, and a division by zero in exact arithmetic (`Expr.answer_eq_error`).
-/
import PostfixCalculator.Postfix.Sorting
import PostfixCalculator.Proofs.Calculation
import PostfixCalculator.Proofs.Expr.Alternation
import PostfixCalculator.Proofs.Postfix.Value

namespace PostfixCalculator

/-! ## 1. The answer of a tree -/

namespace Expr

/-- The answer to an expression, by recursion on it, in the arithmetic of the settings. -/
def answer (settings : Settings) (e : Expr) : Except CalcError Answer :=
  match settings.arithmetic with
  | .floating => Answer.ofNumber settings.decimals <$> (e.eval : Except CalcError Float)
  | .exact => Answer.ofNumber settings.decimals <$> (e.eval : Except CalcError Rat)

theorem answer_eq (settings : Settings) (e : Expr) :
    e.answer settings = Answer.ofNumber settings.decimals <$>
      (e.eval : Except CalcError settings.arithmetic.Domain) := by
  rw [answer]
  cases settings.arithmetic with
  | floating => rfl
  | exact => rfl

/-- The postfix form has the answer of its expression. -/
theorem answer_postorder (settings : Settings) (e : Expr) :
    PostfixCalculator.answer settings e.postorder = e.answer settings := by
  rw [PostfixCalculator.answer_eq, answer_eq, Postfix.evaluate_postorder]

end Expr

/-! ## 2. The tokens of a sentence -/

namespace Derives

variable {n : Nat} {tokens : List Token} {e : Expr}

end Derives

namespace Layout

variable {lexicon : Lexicon} {layout : Layout lexicon}

/-- Every layout of a sentence keeps its numbers apart. -/
theorem apart_of_writes {e : Expr} (h : Writes layout.tokens e) : layout.Apart :=
  apart_of_operandsApart (Token.operandsApart_of_alternate h.alternate)

/-- A layout that is read back as its tokens is sorted as they are. -/
theorem ofExpression_text {p : List Token} (h : layout.Apart)
    (hsort : Postfix.ofInfix layout.tokens = .ok p) :
    Postfix.ofExpression lexicon layout.text = .ok p := by
  rw [Postfix.ofExpression, layout.scan_text h, ok_bind, hsort]

/-- **Every layout of a sentence is sorted into the postfix form of its tree.** -/
theorem ofExpression_of_writes {e : Expr} (h : Writes layout.tokens e) :
    Postfix.ofExpression lexicon layout.text = .ok e.postorder :=
  ofExpression_text (apart_of_writes h) (Postfix.ofInfix_of_writes h)

end Layout

/-! ## 3. From the text to the answer -/

/-- Apart from the trace, the calculation of a sentence gives the answer of its tree. -/
theorem toAnswer_calculate_of_writes (settings : Settings) (layout : Layout settings.lexicon)
    {e : Expr} (h : Writes layout.tokens e) :
    Result.toAnswer <$> calculate settings layout.text = e.answer settings := by
  rw [toAnswer_calculate (Layout.ofExpression_of_writes h), Expr.answer_postorder]

end PostfixCalculator
