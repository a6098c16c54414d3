/-
# Operands and operators in turn

In a sentence of the infix grammar operands and operators take turns.  A number is an operand,
and so is whatever stands between two parentheses, so that an opening parenthesis begins an
operand and a closing one ends it.  Whether an operand is due is then known from the token
before (`Token.alternate`), and a sentence, with the parentheses around it or without, is one
operand to what follows (`Derives.alternate_append`).

A list in which operands and operators do not take turns has two operands side by side, or it
has too few numbers: where no operands are side by side, each number but the first has an
operator of its own in front of it (`Token.countP_isNumber_le`), and a list with one number
more than it has operators has neither an operator to spare nor a place for an empty pair of
parentheses (`Token.alternate_of_countP_eq`).
-/
import PostfixCalculator.Expr
import PostfixCalculator.Proofs.Token.Layout

namespace PostfixCalculator

namespace Token

/-! ## 1. Turns -/

/-- Is it the first token of an operand? -/
def startsOperand : Token → Bool
  | num _ | lparen => true
  | op _ | rparen => false

/-- Is it the last token of an operand? -/
def endsOperand : Token → Bool
  | num _ | rparen => true
  | op _ | lparen => false

/-- Do operands and operators take turns?  The first token begins an operand if one is due;
behind the last one none is due. -/
def alternate (due : Bool) : List Token → Bool
  | [] => !due
  | t :: rest => t.startsOperand == due && alternate (!t.endsOperand) rest

theorem alternate_cons {due : Bool} {t : Token} {rest : List Token} :
    alternate due (t :: rest) = true ↔
      t.startsOperand = due ∧ alternate (!t.endsOperand) rest = true := by
  simp [alternate]

/-- Is it an operator? -/
def isOperator : Token → Bool
  | op _ => true
  | _ => false

theorem startsOperand_of_isOperator {t : Token} (h : t.isOperator = true) :
    t.startsOperand = false := by
  cases t with
  | num text => exact absurd h nofun
  | op o => rfl
  | lparen => exact absurd h nofun
  | rparen => rfl

/-! ## 2. Operands side by side -/

/-- No operand begins right behind another one. -/
def OperandsApart (tokens : List Token) : Prop :=
  tokens.IsChain fun s t => s.endsOperand = true → t.startsOperand = false

/-- A number is an operand from its beginning to its end. -/
theorem isNumber_eq (t : Token) : t.isNumber = (t.startsOperand && t.endsOperand) := by
  cases t <;> rfl

/-- Where operands and operators take turns, no operands are side by side. -/
theorem operandsApart_of_alternate {tokens : List Token} :
    ∀ {due : Bool}, alternate due tokens = true → OperandsApart tokens := by
  induction tokens with
  | nil => exact fun _ => List.isChain_nil
  | cons t rest ih =>
    intro due h
    obtain ⟨-, hrest⟩ := alternate_cons.mp h
    refine List.isChain_cons.mpr ⟨?_, ih hrest⟩
    intro next hnext hend
    obtain ⟨more, rfl⟩ : ∃ more, rest = next :: more := List.head?_eq_some_iff.mp hnext
    rw [(alternate_cons.mp hrest).1, hend, Bool.not_true]

/-- **The account of one token.**  What it adds to the numbers, with the operand that is due
behind it, is what it adds to the operators, with the operand that it begins. -/
theorem isNumber_account (t : Token) :
    t.isNumber.toNat + (!t.endsOperand).toNat = t.isOperator.toNat + t.startsOperand.toNat := by
  cases t <;> rfl

theorem countP_cons (p : Token → Bool) (t : Token) (rest : List Token) :
    (t :: rest).countP p = rest.countP p + (p t).toNat := by
  rw [List.countP_cons]
  cases p t <;> rfl

/-- A list whose operands are apart goes on with such a list, and an operand begins it only
where one is due. -/
theorem OperandsApart.of_cons {due : Bool} {t : Token} {rest : List Token}
    (h : OperandsApart (t :: rest))
    (hdue : due = false → ∀ s ∈ (t :: rest).head?, s.startsOperand = false) :
    t.startsOperand.toNat ≤ due.toNat ∧ OperandsApart rest ∧
      ((!t.endsOperand) = false → ∀ s ∈ rest.head?, s.startsOperand = false) := by
  obtain ⟨hnext, hrest⟩ := List.isChain_cons.mp h
  refine ⟨?_, hrest, fun hend s hs => hnext s hs (by simpa using hend)⟩
  cases due with
  | true => exact Bool.toNat_le _
  | false => rw [hdue rfl t rfl]

/-- **Operands apart need operators between them**: there is one number more than there are
operators at most, and none more where no operand is due. -/
theorem countP_isNumber_le {tokens : List Token} :
    ∀ {due : Bool}, OperandsApart tokens →
      (due = false → ∀ t ∈ tokens.head?, t.startsOperand = false) →
      tokens.countP isNumber ≤ tokens.countP isOperator + due.toNat := by
  induction tokens with
  | nil => exact fun _ _ => Nat.zero_le _
  | cons t rest ih =>
    intro due hapart hdue
    obtain ⟨hstart, hrest, hnext⟩ := hapart.of_cons hdue
    have hle := ih hrest hnext
    have haccount := isNumber_account t
    rw [countP_cons, countP_cons]
    omega

/-- **Operands apart take turns with operators** if there are as many numbers as there can be.
An operator, or a closing parenthesis, where an operand is due would waste a place. -/
theorem alternate_of_countP_eq {tokens : List Token} :
    ∀ {due : Bool}, OperandsApart tokens →
      (due = false → ∀ t ∈ tokens.head?, t.startsOperand = false) →
      tokens.countP isNumber = tokens.countP isOperator + due.toNat →
      alternate due tokens = true := by
  induction tokens with
  | nil =>
    intro due _ _ hcount
    cases due with
    | false => rfl
    | true => exact absurd hcount (by simp)
  | cons t rest ih =>
    intro due hapart hdue hcount
    obtain ⟨hstart, hrest, hnext⟩ := hapart.of_cons hdue
    have hle := countP_isNumber_le hrest hnext
    have haccount := isNumber_account t
    rw [countP_cons, countP_cons] at hcount
    have hinjective : ∀ a b : Bool, a.toNat = b.toNat → a = b := by decide
    have hturn : t.startsOperand = due := hinjective _ _ (by omega)
    exact alternate_cons.mpr ⟨hturn, ih hrest hnext (by omega)⟩

end Token

/-- Operands apart can be written with any gaps. -/
theorem Layout.apart_of_operandsApart {lexicon : Lexicon} {layout : Layout lexicon}
    (h : Token.OperandsApart layout.tokens) : layout.Apart := by
  refine ((List.isChain_map Prod.fst).mp h).imp ?_
  intro p q hpq hp hq
  rw [Token.isNumber_eq, Bool.and_eq_true] at hp hq
  rw [hpq hp.2] at hq
  exact absurd hq.1 nofun

/-! ## 3. Sentences -/

/-- **A sentence is one operand** to what follows it. -/
theorem Derives.alternate_append {n : Nat} {tokens : List Token} {e : Expr}
    (h : Derives n tokens e) (rest : List Token) :
    Token.alternate true (tokens ++ rest) = Token.alternate false rest := by
  induction h generalizing rest with
  | num text => rfl
  | @paren tokens e _ ih =>
    rw [List.append_assoc, List.cons_append]
    exact ih (.rparen :: rest)
  | @binary o left right l r _ _ ihl ihr =>
    rw [List.append_assoc, ihl]
    exact ihr rest
  | lower _ ih => exact ih rest

/-- In a sentence operands and operators take turns. -/
theorem Writes.alternate {tokens : List Token} {e : Expr} (h : Writes tokens e) :
    Token.alternate true tokens = true := by
  have hturns := h.alternate_append []
  rwa [List.append_nil] at hturns

end PostfixCalculator
