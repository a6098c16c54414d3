import PostfixCalculator.Operator

/-!
# Tokens

What an expression is made of, in infix and in postfix order alike.  A number keeps the text
it was written with; whether that text denotes a number is decided when it is evaluated.
-/

namespace PostfixCalculator

/-- A word of an expression. -/
inductive Token where
  | num (text : String)
  | op (operator : Operator)
  | lparen
  | rparen
deriving DecidableEq

namespace Token

/-- The spelling of a token. -/
def text : Token → String
  | num text => text
  | op operator => operator.symbol.toString
  | lparen => "("
  | rparen => ")"

/-- The spelling of a list of tokens: one space between neighbours. -/
def spaced (tokens : List Token) : String :=
  String.intercalate " " (tokens.map text)

/-- The token that one character writes on its own. -/
def ofSymbol? : Char → Option Token
  | '(' => some lparen
  | ')' => some rparen
  | c => (Operator.ofSymbol? c).map op

theorem text_of_ofSymbol? {c : Char} {t : Token} (h : ofSymbol? c = some t) :
    t.text = c.toString := by
  unfold ofSymbol? at h
  split at h
  · cases h; rfl
  · cases h; rfl
  · obtain ⟨o, ho, rfl⟩ := Option.map_eq_some_iff.mp h
    rw [Operator.ofSymbol?_eq_some_iff.mp ho]
    rfl

end Token

end PostfixCalculator
