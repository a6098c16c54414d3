/-
# From infix order to postfix order

A sorting yard: numbers go straight to the output, operators wait on a siding until one comes
that binds no tighter.  An opening parenthesis opens a siding of its own, and the closing one
empties it and returns to the siding around it.  So the yard holds one siding for each open
parenthesis and one for the outermost level, and no parenthesis is ever stored.

The order of operands and operators is not checked here: any list whose parentheses match is
sorted.  `Postfix.ofInfix` fails for a parenthesis without partner only.
-/
import PostfixCalculator.CalcError
import PostfixCalculator.Token

namespace PostfixCalculator

/-! ## 1. The yard -/

/-- The state between two tokens. -/
structure Yard where
  /-- What has gone out, the last token first. -/
  output : List Token := []
  /-- The operators that wait at the current level, the last one first. -/
  siding : List Operator := []
  /-- The sidings of the levels around it, the innermost first. -/
  enclosing : List (List Operator) := []

namespace Yard

/-- Sends operators out, the first of the list first. -/
def release (operators : List Operator) (output : List Token) : List Token :=
  (operators.map Token.op).reverse ++ output

@[simp] theorem release_nil (output : List Token) : release [] output = output := rfl

@[simp] theorem release_cons (o : Operator) (operators : List Operator) (output : List Token) :
    release (o :: operators) output = release operators (.op o :: output) := by
  simp [release]

theorem release_append (first second : List Operator) (output : List Token) :
    release (first ++ second) output = release second (release first output) := by
  simp [release]

/-- Takes one token in. -/
def step (yard : Yard) : Token → Except CalcError Yard
  | .num text => .ok { yard with output := .num text :: yard.output }
  | .op o =>
    .ok { yard with
      output := release (yard.siding.takeWhile (·.goesBefore o)) yard.output
      siding := o :: yard.siding.dropWhile (·.goesBefore o) }
  | .lparen => .ok { yard with siding := [], enclosing := yard.siding :: yard.enclosing }
  | .rparen =>
    match yard.enclosing with
    | [] => .error .mismatchedParenthesis
    | outer :: enclosing => .ok ⟨release yard.siding yard.output, outer, enclosing⟩

/-- Empties the yard.  A parenthesis that is still open has no partner. -/
def finish (yard : Yard) : Except CalcError (List Token) :=
  match yard.enclosing with
  | [] => .ok (release yard.siding yard.output).reverse
  | _ :: _ => .error .mismatchedParenthesis

/-! ### How it goes on, and where it fails -/

variable {yard : Yard} {t : Token} {e : CalcError}

/-- A closing parenthesis returns to the level around its own. -/
theorem step_rparen_eq_ok_iff {next : Yard} :
    yard.step .rparen = .ok next ↔ ∃ outer enclosing, yard.enclosing = outer :: enclosing ∧
      next = ⟨release yard.siding yard.output, outer, enclosing⟩ := by
  rw [step]
  cases yard.enclosing with
  | nil => simp
  | cons outer enclosing =>
    constructor
    · exact fun h => ⟨outer, enclosing, rfl, (Except.ok.inj h).symm⟩
    · rintro ⟨outer', enclosing', hlevels, rfl⟩
      obtain ⟨rfl, rfl⟩ := List.cons.inj hlevels
      rfl

/-- No token fails but a closing parenthesis at the outermost level. -/
theorem step_eq_error_iff :
    yard.step t = .error e ↔ t = .rparen ∧ yard.enclosing = [] ∧ e = .mismatchedParenthesis := by
  cases t with
  | num text => simp [step]
  | op o => simp [step]
  | lparen => simp [step]
  | rparen =>
    rw [step]
    cases yard.enclosing with
    | nil => simp [eq_comm]
    | cons outer enclosing => simp

/-- At the end the outermost level has to be the current one. -/
theorem finish_eq_ok_iff {p : List Token} :
    yard.finish = .ok p ↔
      yard.enclosing = [] ∧ p = (release yard.siding yard.output).reverse := by
  rw [finish]
  cases yard.enclosing with
  | nil => simp [eq_comm]
  | cons outer enclosing => simp

theorem finish_eq_error_iff :
    yard.finish = .error e ↔ yard.enclosing ≠ [] ∧ e = .mismatchedParenthesis := by
  rw [finish]
  cases yard.enclosing with
  | nil => simp
  | cons outer enclosing => simp [eq_comm]

end Yard

/-! ## 2. The whole list -/

/-- The tokens of an infix expression in postfix order. -/
def Postfix.ofInfix (tokens : List Token) : Except CalcError (List Token) := do
  (← tokens.foldlM Yard.step {}).finish

end PostfixCalculator
