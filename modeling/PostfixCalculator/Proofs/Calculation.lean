/-
# The stages of a calculation

A calculation fails where the expression cannot be brought into postfix order, and the
settings other than the lexicon have no part in that (`calculate_of_error`).  Otherwise it is
the answer to the postfix form, with both forms as its trace (`calculate_of_ok`), and that is
the value of the form in the numbers of the arithmetic (`answer_eq`).

The comparisons of two calculations, under two policies or in two arithmetics, start from
these equations and end at the values.
-/
import PostfixCalculator.Calculation
import PostfixCalculator.Proofs.Token.Scanning

namespace PostfixCalculator

/-! ## 1. Answers -/

/-- A number as an answer. -/
def Answer.ofNumber {α : Type} [Number α] (decimals : Nat) (x : α) : Answer :=
  ⟨Number.toFloat x, Number.display decimals x⟩

/-- An answer with the trace of the tokens and of their postfix form. -/
def Answer.traced (tokens p : List Token) (found : Answer) : Result :=
  ⟨found, ⟨Token.spaced tokens, Token.spaced p⟩⟩

theorem answerIn_eq (α : Type) [Number α] (settings : Settings) (p : List Token) :
    answerIn α settings p =
      Answer.ofNumber settings.decimals <$> (Postfix.evaluate settings.policy p : Except _ α) :=
  bind_pure_comp (m := Except CalcError) _ _

/-- The numbers of an arithmetic. -/
def Arithmetic.Domain : Arithmetic → Type
  | .floating => Float
  | .exact => Rat

instance : (a : Arithmetic) → Number a.Domain
  | .floating => inferInstanceAs (Number Float)
  | .exact => inferInstanceAs (Number Rat)

/-- **Of all operators only a division fails**, in exact arithmetic, and with one error. -/
theorem Arithmetic.of_apply_eq_error {a : Arithmetic} {o : Operator} {x y : a.Domain}
    {e : CalcError} (h : Number.apply o x y = .error e) :
    a = .exact ∧ o = .divide ∧ e = .divisionByZero := by
  cases a with
  | floating => exact absurd h nofun
  | exact =>
    obtain ⟨ho, -, he⟩ := Exact.apply_eq_error_iff.mp h
    exact ⟨rfl, ho, he⟩

/-- **An answer is the value**, in binary64 and as text; nothing fails after the evaluation. -/
theorem answer_eq (settings : Settings) (p : List Token) :
    answer settings p = Answer.ofNumber settings.decimals <$>
      (Postfix.evaluate settings.policy p : Except CalcError settings.arithmetic.Domain) := by
  rw [answer]
  cases settings.arithmetic with
  | floating => exact answerIn_eq Float settings p
  | exact => exact answerIn_eq Rat settings p

/-- Every answer is shown after an equals sign. -/
theorem display_of_answer {settings : Settings} {p : List Token} {found : Answer}
    (h : answer settings p = .ok found) : ∃ text, found.display = "=" ++ text := by
  rw [answer_eq] at h
  obtain ⟨x, -, rfl⟩ := map_eq_ok_iff.mp h
  exact ⟨_, rfl⟩

/-! ## 2. Infix text -/

theorem Postfix.ofExpression_eq_ok_iff {lexicon : Lexicon} {text : String} {p : List Token} :
    ofExpression lexicon text = .ok p ↔
      ∃ tokens, Token.scan lexicon text = .ok tokens ∧ ofInfix tokens = .ok p :=
  bind_eq_ok_iff

/-- The yard fails at a parenthesis without its partner, and in no other way. -/
theorem Postfix.eq_mismatchedParenthesis_of_ofInfix {tokens : List Token} {e : CalcError}
    (h : ofInfix tokens = .error e) : e = .mismatchedParenthesis := by
  rcases bind_eq_error_iff.mp h with hrun | ⟨yard, -, hfinish⟩
  · obtain ⟨t, -, yard, hstep⟩ := exists_of_foldlM_eq_error hrun
    exact (Yard.step_eq_error_iff.mp hstep).2.2
  · exact (Yard.finish_eq_error_iff.mp hfinish).2

/-- What cannot be sorted has no value, and the failure is that of the sorting. -/
theorem calculate_of_error {settings : Settings} {text : String} {e : CalcError}
    (h : Postfix.ofExpression settings.lexicon text = .error e) :
    calculate settings text = .error e := by
  rcases bind_eq_error_iff.mp h with hscan | ⟨tokens, hscan, hsort⟩
  · rw [calculate, hscan, error_bind]
  · rw [calculate, hscan, ok_bind, hsort, error_bind]

/-- What can be sorted has the answer of its postfix form. -/
theorem calculate_of_ok {settings : Settings} {text : String} {tokens p : List Token}
    (hscan : Token.scan settings.lexicon text = .ok tokens)
    (hsort : Postfix.ofInfix tokens = .ok p) :
    calculate settings text = Answer.traced tokens p <$> answer settings p := by
  rw [calculate, hscan, ok_bind, hsort, ok_bind]
  cases answer settings p <;> rfl

/-- Apart from the trace, a calculation is the answer to the postfix form. -/
theorem toAnswer_calculate {settings : Settings} {text : String} {p : List Token}
    (h : Postfix.ofExpression settings.lexicon text = .ok p) :
    Result.toAnswer <$> calculate settings text = answer settings p := by
  obtain ⟨tokens, hscan, hsort⟩ := Postfix.ofExpression_eq_ok_iff.mp h
  rw [calculate_of_ok hscan hsort]
  cases answer settings p <;> rfl

/-- The trace shows the postfix form. -/
theorem postfixForm_of_calculate {settings : Settings} {text : String} {p : List Token}
    {r : Result} (h : Postfix.ofExpression settings.lexicon text = .ok p)
    (hr : calculate settings text = .ok r) : r.trace.postfixForm = Token.spaced p := by
  obtain ⟨tokens, hscan, hsort⟩ := Postfix.ofExpression_eq_ok_iff.mp h
  rw [calculate_of_ok hscan hsort] at hr
  obtain ⟨found, -, rfl⟩ := map_eq_ok_iff.mp hr
  rfl

/-- What is calculated has been sorted. -/
theorem ofExpression_of_calculate {settings : Settings} {text : String} {r : Result}
    (hr : calculate settings text = .ok r) :
    ∃ p, Postfix.ofExpression settings.lexicon text = .ok p := by
  cases hp : Postfix.ofExpression settings.lexicon text with
  | ok p => exact ⟨p, rfl⟩
  | error e =>
    rw [calculate_of_error hp] at hr
    exact absurd hr (by simp)

/-- A calculation fails where the text cannot be sorted, or where its postfix form has no
answer. -/
theorem calculate_eq_error_iff {settings : Settings} {text : String} {e : CalcError} :
    calculate settings text = .error e ↔ Postfix.ofExpression settings.lexicon text = .error e ∨
      ∃ p, Postfix.ofExpression settings.lexicon text = .ok p ∧ answer settings p = .error e := by
  cases hp : Postfix.ofExpression settings.lexicon text with
  | error e' => simp [calculate_of_error hp]
  | ok p =>
    obtain ⟨tokens, hscan, hsort⟩ := Postfix.ofExpression_eq_ok_iff.mp hp
    rw [calculate_of_ok hscan hsort, map_eq_error_iff]
    simp

/-- The display of a calculation starts with an equals sign. -/
theorem display_of_calculate {settings : Settings} {text : String} {r : Result}
    (h : calculate settings text = .ok r) : ∃ rest, r.display = "=" ++ rest := by
  cases hp : Postfix.ofExpression settings.lexicon text with
  | error e =>
    rw [calculate_of_error hp] at h
    exact absurd h (by simp)
  | ok p =>
    obtain ⟨tokens, hscan, hsort⟩ := Postfix.ofExpression_eq_ok_iff.mp hp
    rw [calculate_of_ok hscan hsort] at h
    obtain ⟨found, hfound, rfl⟩ := map_eq_ok_iff.mp h
    exact display_of_answer hfound

/-! ## 3. Postfix text -/

end PostfixCalculator
