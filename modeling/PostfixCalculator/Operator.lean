/-
# The four operators

All are binary and group to the left; `*` and `/` bind tighter than `+` and `-`.  Applying an
operator to numbers belongs to the numbers (`Number`), so that one table serves both
arithmetics.
-/

namespace PostfixCalculator

/-- How a chain of operators of one precedence groups. -/
inductive Associativity where
  | left
deriving DecidableEq

/-- A binary operator. -/
inductive Operator where
  | plus
  | minus
  | times
  | divide
deriving DecidableEq

namespace Operator

/-! ## 1. Symbols -/

/-- The character that writes an operator. -/
def symbol : Operator → Char
  | plus => '+'
  | minus => '-'
  | times => '*'
  | divide => '/'

/-- The operator that a character writes. -/
def ofSymbol? : Char → Option Operator
  | '+' => some plus
  | '-' => some minus
  | '*' => some times
  | '/' => some divide
  | _ => none

@[simp] theorem ofSymbol?_symbol (o : Operator) : ofSymbol? o.symbol = some o := by
  cases o <;> rfl

theorem ofSymbol?_eq_some_iff {c : Char} {o : Operator} : ofSymbol? c = some o ↔ c = o.symbol := by
  refine ⟨fun h => ?_, fun h => h ▸ ofSymbol?_symbol o⟩
  unfold ofSymbol? at h
  split at h <;> cases h <;> rfl

/-! ## 2. Binding -/

/-- The larger, the tighter it binds. -/
def precedence : Operator → Nat
  | plus | minus => 1
  | times | divide => 2

/-- Every operator groups to the left. -/
def associativity : Operator → Associativity
  | _ => .left

/-- Does a waiting operator go out before `next` comes in?  With grouping to the left it does
when it binds at least as tightly. -/
def goesBefore (waiting next : Operator) : Bool :=
  match next.associativity with
  | .left => decide (next.precedence ≤ waiting.precedence)

theorem goesBefore_iff {waiting next : Operator} :
    waiting.goesBefore next = true ↔ next.precedence ≤ waiting.precedence := by
  simp [goesBefore]

end Operator

end PostfixCalculator
