/-
# Numbers to compute in

The interface between evaluation and an arithmetic: a number for every literal, zero, the four
operators, the nearest binary64 number, and the text with a given number of decimals.
Evaluation is written once, over this class.

A literal is written with digits and at most one point, and has at least one digit.  `5.` and
`.5` are literals, `.` and `1.2.3` are not.
-/
import PostfixCalculator.CalcError
import PostfixCalculator.Operator

namespace PostfixCalculator

/-! ## 1. Literals -/

/-- A literal, cut at its point. -/
structure Literal where
  /-- The digits before the point. -/
  whole : List Char
  /-- The digits after it. -/
  fraction : List Char
deriving DecidableEq

namespace Literal

/-- Reads the text of a number token. -/
def ofText? (text : String) : Option Literal :=
  let whole := text.toList.takeWhile Char.isDigit
  match text.toList.dropWhile Char.isDigit with
  | [] => if whole.isEmpty then none else some ⟨whole, []⟩
  | c :: fraction =>
    if c == '.' && fraction.all Char.isDigit && !(whole.isEmpty && fraction.isEmpty) then
      some ⟨whole, fraction⟩
    else none

/-- The number that the digits write when the point is left out. -/
def significand (l : Literal) : Nat := Nat.ofDigitChars 10 (l.whole ++ l.fraction) 0

/-- The number of digits after the point. -/
def places (l : Literal) : Nat := l.fraction.length

end Literal

/-! ## 2. Arithmetics -/

/-- A domain that expressions are evaluated in. -/
class Number (α : Type) where
  /-- The number that a literal writes. -/
  ofLiteral : Literal → α
  /-- What stands in for a left operand that is missing. -/
  zero : α
  /-- The operator between its left and its right operand. -/
  apply : Operator → α → α → Except CalcError α
  /-- The nearest binary64 number. -/
  toFloat : α → Float
  /-- The text with this many digits after the point. -/
  fixed : Nat → α → String

namespace Number

variable {α : Type} [Number α]

/-- Reads the text of a number token.  Its shape alone decides whether it is read: the parser
of numbers that stands behind this check is taken to read every `Literal`, so that refusals of
its own have no counterpart here. -/
def ofText (text : String) : Except CalcError α :=
  match Literal.ofText? text with
  | some l => .ok (ofLiteral l)
  | none => .error (.invalidLiteral text)

/-- A text that denotes no number is named by the error. -/
theorem eq_invalidLiteral_of_ofText {text : String} {e : CalcError}
    (h : (ofText text : Except CalcError α) = .error e) : e = .invalidLiteral text := by
  rw [ofText] at h
  split at h
  · exact absurd h nofun
  · exact (Except.error.inj h).symm

/-- A result as it is shown. -/
def display (decimals : Nat) (x : α) : String := "=" ++ fixed decimals x

end Number

end PostfixCalculator
