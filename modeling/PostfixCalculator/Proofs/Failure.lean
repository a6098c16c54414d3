/-
# Errors that refuse a piece of the text

Two errors refuse a piece of what was typed, a character or a word (`CalcError.refusesText`).
A calculation of an expression refuses a character only, and that in the scan: the tokens are
sorted without their parentheses, so that the evaluation knows every word
(`refusesText_of_answer`).  An expression in the alphabet of the tokens is refused in no way
(`refusesText_of_calculate`).

The messages of these two errors are those of no other, since the messages of any two kinds of
errors differ within their first six characters (`CalcError.opening_eq_of_message_eq`).
-/
import PostfixCalculator.Proofs.Postfix.Faults
import PostfixCalculator.Proofs.Refusal

namespace PostfixCalculator

/-! ## 1. Messages -/

namespace CalcError

/-- Does it refuse a piece of the text? -/
def refusesText : CalcError → Bool
  | .unexpectedCharacter _ _ | .unknownOperator _ => true
  | _ => false

/-- How the message of an error begins. -/
def opening : CalcError → List Char
  | .unexpectedCharacter _ _ => ['c', 'a', 'r', 'a', 'c', 't']
  | .mismatchedParenthesis => ['p', 'a', 'r', 'e', 'n', 't']
  | .unknownOperator _ => ['o', 'p', 'é', 'r', 'a', 't']
  | .insufficientOperands _ => ['o', 'p', 'é', 'r', 'a', 'n']
  | .invalidLiteral _ => ['n', 'o', 'm', 'b', 'r', 'e']
  | .divisionByZero => ['d', 'i', 'v', 'i', 's', 'i']

theorem length_opening (e : CalcError) : e.opening.length = 6 := by
  cases e <;> rfl

theorem refusesText_eq (e : CalcError) :
    e.refusesText = decide
      (e.opening ∈ [opening (.unexpectedCharacter ' ' 0), opening (.unknownOperator "")]) := by
  cases e <;> rfl

theorem prefix_append {cs : List Char} {text : String} (more : String) (h : cs <+: text.toList) :
    cs <+: (text ++ more).toList := by
  rw [String.toList_append]
  exact h.trans (List.prefix_append _ _)

theorem opening_prefix_message (e : CalcError) : e.opening <+: e.message.toList := by
  cases e with
  | unexpectedCharacter c k =>
    have hlead : ['c', 'a', 'r', 'a', 'c', 't'] <+: "caractère inattendu: '".toList := by
      decide +kernel
    exact prefix_append _ (prefix_append _ (prefix_append _ (prefix_append _ hlead)))
  | mismatchedParenthesis => decide +kernel
  | unknownOperator word =>
    have hlead : ['o', 'p', 'é', 'r', 'a', 't'] <+: "opérateur inconnu: '".toList := by
      decide +kernel
    exact prefix_append _ (prefix_append _ hlead)
  | insufficientOperands n =>
    have hlead : ['o', 'p', 'é', 'r', 'a', 'n'] <+: "opérandes insuffisants (".toList := by
      decide +kernel
    exact prefix_append _ (prefix_append _ hlead)
  | invalidLiteral text =>
    have hlead : ['n', 'o', 'm', 'b', 'r', 'e'] <+: "nombre invalide: '".toList := by
      decide +kernel
    exact prefix_append _ (prefix_append _ hlead)
  | divisionByZero => decide +kernel

/-- **A message tells the kind of its error.** -/
theorem opening_eq_of_message_eq {e e' : CalcError} (h : e.message = e'.message) :
    e.opening = e'.opening := by
  have hprefix : e.opening <+: e'.message.toList := h ▸ e.opening_prefix_message
  have hlength : e.opening.length = e'.opening.length := by
    rw [length_opening, length_opening]
  exact (List.prefix_of_prefix_length_le hprefix e'.opening_prefix_message
    (Nat.le_of_eq hlength)).eq_of_length hlength

theorem refusesText_eq_of_message_eq {e e' : CalcError} (h : e.message = e'.message) :
    e.refusesText = e'.refusesText := by
  rw [refusesText_eq, refusesText_eq, opening_eq_of_message_eq h]

theorem message_ne_empty (e : CalcError) : e.message ≠ "" := by
  intro h
  have hprefix := e.opening_prefix_message
  rw [h] at hprefix
  have hle := hprefix.length_le
  rw [length_opening] at hle
  exact absurd hle (by decide)

end CalcError

/-! ## 2. Calculations -/

/-- Without parentheses an evaluation refuses nothing. -/
theorem Postfix.refusesText_of_evaluate {a : Arithmetic} {policy : Policy} {p : List Token}
    {e : CalcError} (hparen : ∀ t ∈ p, t.isParen = false)
    (h : (evaluate policy p : Except CalcError a.Domain) = .error e) : e.refusesText = false := by
  cases evaluate_fault h with
  | operands remaining => rfl
  | literal hmem => rfl
  | operator hmem happly =>
    obtain ⟨-, -, rfl⟩ := Arithmetic.of_apply_eq_error happly
    rfl
  | paren hmem hp =>
    rw [hparen _ hmem] at hp
    exact absurd hp nofun

/-- What is left of an expression when it has been sorted is not refused. -/
theorem refusesText_of_answer {settings : Settings} {p : List Token} {e : CalcError}
    (hparen : ∀ t ∈ p, t.isParen = false) (h : answer settings p = .error e) :
    e.refusesText = false := by
  rw [answer_eq, map_eq_error_iff] at h
  exact Postfix.refusesText_of_evaluate hparen h

/-- **A calculation refuses at most a character.** -/
theorem scan_eq_error_or_of_calculate {settings : Settings} {text : String} {e : CalcError}
    (h : calculate settings text = .error e) :
    Token.scan settings.lexicon text = .error e ∨ e.refusesText = false := by
  rcases calculate_eq_error_iff.mp h with hsort | ⟨p, hp, hanswer⟩
  · rcases bind_eq_error_iff.mp hsort with hscan | ⟨tokens, -, hsort⟩
    · exact Or.inl hscan
    · rw [Postfix.eq_mismatchedParenthesis_of_ofInfix hsort]
      exact Or.inr rfl
  · obtain ⟨tokens, -, hsort⟩ := Postfix.ofExpression_eq_ok_iff.mp hp
    exact Or.inr (refusesText_of_answer
      (fun _ => Postfix.isParen_of_mem_ofInfix hsort) hanswer)

/-- **Of an expression in the alphabet of the tokens nothing is refused.** -/
theorem refusesText_of_calculate {settings : Settings} {text : String} {e : CalcError}
    (hlegible : ∀ c ∈ text.toList, c ∈ Token.alphabet) (h : calculate settings text = .error e) :
    e.refusesText = false := by
  rcases scan_eq_error_or_of_calculate h with hscan | he
  · obtain ⟨tokens, htokens⟩ := Token.exists_scan_lenient text
    have hclean : ∀ c ∈ text.toList, ¬ Token.Foreign c := fun c hc hf => hf.1 (hlegible c hc)
    rw [Token.scan_eq_scan hclean _ .lenient, htokens] at hscan
    exact absurd hscan nofun
  · exact he

end PostfixCalculator
