/-
# From text to tokens

A number is a longest run of digits and points; an operator and a parenthesis are one
character each.  Other characters separate numbers and are otherwise skipped, or refused: the
lexicon decides.  A refusal names the character and its index in the text.
-/
import PostfixCalculator.CalcError
import PostfixCalculator.Settings
import PostfixCalculator.Text.Blank
import PostfixCalculator.Token

namespace PostfixCalculator

/-! ## 1. Classes of characters -/

/-- The characters that numbers are made of. -/
def Token.inNumber (c : Char) : Bool := c.isDigit || c == '.'

/-- May a character of no token be skipped? -/
def Lexicon.skips : Lexicon → Char → Bool
  | .lenient, _ => true
  | .strict, c => Text.isBlank c

/-! ## 2. The scan -/

/-- The tokens of `cs`, a text that stands at index `position` of a longer one. -/
def Token.scanFrom (lexicon : Lexicon) (position : Nat) :
    List Char → Except CalcError (List Token)
  | [] => .ok []
  | c :: rest =>
    if inNumber c then
      let more := rest.takeWhile inNumber
      (num (String.ofList (c :: more)) :: ·) <$>
        scanFrom lexicon (position + 1 + more.length) (rest.dropWhile inNumber)
    else
      match ofSymbol? c with
      | some token => (token :: ·) <$> scanFrom lexicon (position + 1) rest
      | none =>
        if lexicon.skips c then scanFrom lexicon (position + 1) rest
        else .error (.unexpectedCharacter c position)
termination_by cs => cs.length
decreasing_by
  all_goals simp only [List.length_cons]
  · exact Nat.lt_succ_of_le (List.dropWhile_sublist inNumber).length_le
  all_goals exact Nat.lt_succ_self _

/-- The tokens of a text. -/
def Token.scan (lexicon : Lexicon) (text : String) : Except CalcError (List Token) :=
  scanFrom lexicon 0 text.toList

end PostfixCalculator
