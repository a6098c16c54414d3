/-
# A calculation

From the text of an expression to the value shown: tokens, postfix order, value, text.  The
stages fail in this order.  What was found on the way is kept as a trace.

Postfix text enters at the third stage, where no lexicon applies.
-/
import PostfixCalculator.Number.Exact
import PostfixCalculator.Number.Floating
import PostfixCalculator.Postfix.Evaluation
import PostfixCalculator.Postfix.Yard

namespace PostfixCalculator

/-! ## 1. Results -/

/-- A value, in binary64 and as it is shown. -/
structure Answer where
  value : Float
  display : String

/-- The two intermediate forms of an expression, as text. -/
structure Trace where
  /-- The tokens in the order of the expression. -/
  tokens : String := ""
  /-- The tokens in postfix order. -/
  postfixForm : String := ""
deriving DecidableEq

/-- The answer to an infix expression. -/
structure Result extends Answer where
  trace : Trace

/-! ## 2. The stages together -/

/-- The postfix form of an expression. -/
def Postfix.ofExpression (lexicon : Lexicon) (expression : String) :
    Except CalcError (List Token) := do
  ofInfix (← Token.scan lexicon expression)

/-- The answer that the numbers `α` give to a postfix list. -/
def answerIn (α : Type) [Number α] (settings : Settings) (tokens : List Token) :
    Except CalcError Answer := do
  let x : α ← Postfix.evaluate settings.policy tokens
  return ⟨Number.toFloat x, Number.display settings.decimals x⟩

/-- The answer to a postfix list. -/
def answer (settings : Settings) (tokens : List Token) : Except CalcError Answer :=
  match settings.arithmetic with
  | .floating => answerIn Float settings tokens
  | .exact => answerIn Rat settings tokens

/-- The answer to an infix expression, with its trace. -/
def calculate (settings : Settings) (expression : String) : Except CalcError Result := do
  let infixTokens ← Token.scan settings.lexicon expression
  let postfixTokens ← Postfix.ofInfix infixTokens
  let found ← answer settings postfixTokens
  return { found with trace := ⟨Token.spaced infixTokens, Token.spaced postfixTokens⟩ }

/-- The answer to a postfix text. -/
def calculatePostfix (settings : Settings) (text : String) : Except CalcError Answer := do
  answer settings (← Postfix.ofText text)

end PostfixCalculator
