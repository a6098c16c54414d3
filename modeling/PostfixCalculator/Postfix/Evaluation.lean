/-
# Postfix lists, read and evaluated

The words of a postfix text are its tokens: digits and points make a number, an operator is
written by its symbol.  Anything else is refused, the first such word by name; a parenthesis
is no exception.

Evaluation keeps a stack of values: a number goes on top, an operator takes the two on top, the
right operand first, and leaves its result.  One value has to be left at the end.

The strict policy checks the balance of the whole list before it computes.  The tolerant one
reads a missing left operand as zero; a missing right operand, or values left over, are errors
under both.
-/
import PostfixCalculator.Number
import PostfixCalculator.Token.Scan

namespace PostfixCalculator.Postfix

/-! ## 1. Reading postfix text -/

/-- The token that a word writes. -/
def tokenOfWord? (word : List Char) : Option Token :=
  if word.all Token.inNumber then some (.num (String.ofList word))
  else
    match word with
    | [c] => (Operator.ofSymbol? c).map .op
    | _ => none

/-- The token that a word writes, or a refusal of the word. -/
def readWord (word : List Char) : Except CalcError Token :=
  match tokenOfWord? word with
  | some token => .ok token
  | none => .error (.unknownOperator (String.ofList word))

/-- The tokens of a postfix text. -/
def ofText (text : String) : Except CalcError (List Token) :=
  (Text.words text.toList).mapM readWord

/-! ## 2. Balance

Without computing anything one can tell whether every operator of a postfix list finds two
values and whether one value is left: a number adds a value, an operator takes two and gives
one. -/

/-- The number of values after one more token. -/
def countStep (depth : Nat) : Token → Except CalcError Nat
  | .num _ => .ok (depth + 1)
  | .op _ => if depth < 2 then .error (.insufficientOperands depth) else .ok (depth - 1)
  | token => .error (.unknownOperator token.text)

/-- Refuses a list that lacks an operand, or that leaves other than one value. -/
def checkBalance (tokens : List Token) : Except CalcError Unit := do
  let depth ← tokens.foldlM countStep 0
  if depth = 1 then .ok () else .error (.insufficientOperands depth)

/-! ## 3. Evaluation -/

variable {α : Type} [Number α]

/-- The stack, top first, after an operator. -/
def operate (policy : Policy) (o : Operator) : List α → Except CalcError (List α)
  | right :: left :: rest => (· :: rest) <$> Number.apply o left right
  | [right] =>
    match policy with
    | .tolerant => ([·]) <$> Number.apply o Number.zero right
    | .strict => .error (.insufficientOperands 1)
  | [] => .error (.insufficientOperands 0)

/-- The stack after one token. -/
def reduceStep (policy : Policy) (stack : List α) : Token → Except CalcError (List α)
  | .num text => (· :: stack) <$> Number.ofText text
  | .op o => operate policy o stack
  | token => .error (.unknownOperator token.text)

/-- The stack after a whole list. -/
def reduce (policy : Policy) (tokens : List Token) : Except CalcError (List α) :=
  tokens.foldlM (reduceStep policy) []

/-- The only value of a stack. -/
def single : List α → Except CalcError α
  | [value] => .ok value
  | stack => .error (.insufficientOperands stack.length)

/-- The value of a postfix list. -/
def evaluate (policy : Policy) (tokens : List Token) : Except CalcError α := do
  match policy with
  | .strict => checkBalance tokens
  | .tolerant => pure ()
  single (← reduce policy tokens)

/-- The value of a postfix text. -/
def evaluateText (policy : Policy) (text : String) : Except CalcError α := do
  evaluate policy (← ofText text)

end PostfixCalculator.Postfix
