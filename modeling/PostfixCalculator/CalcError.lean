/-
# What a calculation can fail with

One constructor for each cause, in the order in which the stages meet them; the wording that
the user reads is in `CalcError.message` alone.
-/

namespace PostfixCalculator

/-- Why a calculation has no value. -/
inductive CalcError where
  /-- A character of no token, at its index in the text, under the strict lexicon. -/
  | unexpectedCharacter (character : Char) (position : Nat)
  /-- A parenthesis without its partner. -/
  | mismatchedParenthesis
  /-- A word of a postfix text, or a parenthesis in one, that is no number and no operator. -/
  | unknownOperator (word : String)
  /-- Operands and operators do not add up; `remaining` values were at hand. -/
  | insufficientOperands (remaining : Nat)
  /-- A number token that denotes no number. -/
  | invalidLiteral (text : String)
  /-- A division by zero in exact arithmetic. -/
  | divisionByZero
deriving DecidableEq

/-- The text shown for an error. Quoted pieces of the input stand in it unchanged. -/
def CalcError.message : CalcError → String
  | .unexpectedCharacter c position =>
    "caractère inattendu: '" ++ c.toString ++ "' (position " ++ position.repr ++ ")"
  | .mismatchedParenthesis => "parenthèses non appariées"
  | .unknownOperator word => "opérateur inconnu: '" ++ word ++ "'"
  | .insufficientOperands remaining =>
    "opérandes insuffisants (" ++ remaining.repr ++ " valeur(s) restante(s))"
  | .invalidLiteral text => "nombre invalide: '" ++ text ++ "'"
  | .divisionByZero => "division par zéro"

end PostfixCalculator
