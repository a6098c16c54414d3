/-
# Expressions and how they are written

What an expression means, without its tokens, its parentheses and any stack: a tree whose
leaves are literals and whose inner nodes are operators.  Its value is computed by recursion,
the left operand before the right one and both before the operator, so the first error met on
this walk is the error of the tree.  The same walk, written down, is the postfix form.

In infix order a grammar says which lists of tokens write an expression.  A list has a level:

* level 1, a sum:     a product, or a sum, `+` or `-`, and a product;
* level 2, a product: a factor, or a product, `*` or `/`, and a factor;
* level 3, a factor:  a number, or a sum in parentheses.

The level of an operator is its precedence, and its right operand is one level higher; that
is grouping to the left.  So one rule covers the four operators.
-/
import PostfixCalculator.Number
import PostfixCalculator.Token

namespace PostfixCalculator

/-- An expression. -/
inductive Expr where
  | literal (text : String)
  | binary (o : Operator) (left right : Expr)
deriving DecidableEq

namespace Expr

/-! ## 1. Value -/

/-- The value of an expression. -/
def eval {α : Type} [Number α] : Expr → Except CalcError α
  | literal text => Number.ofText text
  | binary o left right => do
    let x ← left.eval
    let y ← right.eval
    Number.apply o x y

/-! ## 2. Postfix form -/

/-- The tokens of an expression, each operator behind its operands.  The yard sorts the infix
tokens of the expression into this list (`Postfix.ofInfix_of_writes`). -/
def postorder : Expr → List Token
  | literal text => [.num text]
  | binary o left right => left.postorder ++ right.postorder ++ [.op o]

end Expr

/-! ## 3. Infix grammar -/

/-- The tokens write the expression, at this level or a higher one. -/
inductive Derives : Nat → List Token → Expr → Prop where
  | num (text : String) : Derives 3 [.num text] (.literal text)
  | paren {tokens : List Token} {e : Expr} :
    Derives 1 tokens e → Derives 3 (.lparen :: tokens ++ [.rparen]) e
  | binary (o : Operator) {left right : List Token} {l r : Expr} :
    Derives o.precedence left l → Derives (o.precedence + 1) right r →
      Derives o.precedence (left ++ .op o :: right) (.binary o l r)
  | lower {level : Nat} {tokens : List Token} {e : Expr} :
    Derives (level + 1) tokens e → Derives level tokens e

/-- The tokens are a sentence of the grammar, which writes the expression. -/
def Writes (tokens : List Token) (e : Expr) : Prop := Derives 1 tokens e

namespace Derives

/-- What has a level has all levels below it. -/
theorem of_le {m n : Nat} {tokens : List Token} {e : Expr} (h : Derives n tokens e)
    (hmn : m ≤ n) : Derives m tokens e := by
  induction n with
  | zero => rwa [Nat.le_zero.mp hmn]
  | succ n ih =>
    rcases Nat.lt_or_eq_of_le hmn with hlt | rfl
    · exact ih h.lower (Nat.le_of_lt_succ hlt)
    · exact h

end Derives

end PostfixCalculator
