/-
# An operator behind a sentence

A sentence with one more operator behind it lacks a right operand.  The calculation does not
see it that way.  The yard sends the operator out behind the operands that have come before it,
so that in the postfix form each operator but the last one finds two values, and the last one
finds a value and misses another (`Postfix.ofInfix_op_of_derives`,
`Postfix.ofInfix_op_of_looser`).  The value that it finds is its right operand, and under the
tolerant policy the missing one is a zero on its left.

* An operator that binds no tighter than the sentence comes last: `8-5-` is `0-(8-5)`, and
  `8*5-` is `0-8*5`.
* One that binds tighter than the last sum goes out before the operator of that sum, and takes
  both operands of it: `8-5*` is `0-8*5`.

So the calculation goes on as if nothing were missing on the right, and it refuses an operator
only if no value has come before it (`trailing_operator_lacks_left_operand`).
-/
import PostfixCalculator.Proofs.Expr.Derivation
import PostfixCalculator.Proofs.Number.Numeral
import PostfixCalculator.Proofs.Omission

namespace PostfixCalculator

/-! ## 1. Sorting -/

section

variable {o : Operator} {tokens : List Token} {e : Expr}

end

namespace Postfix

variable {o : Operator} {e : Expr}

end Postfix

/-! ## 2. Numerals -/

/-- All numbers of the list are numerals. -/
def Token.AllNumerals (tokens : List Token) : Prop :=
  ∀ text, num text ∈ tokens → IsNumeral text

namespace Expr

variable {e l r : Expr} {o : Operator}

end Expr

/-! ## 3. Calculations -/

section

variable {settings : Settings}

variable (hpolicy : settings.policy = .tolerant)

include hpolicy

end

end PostfixCalculator
