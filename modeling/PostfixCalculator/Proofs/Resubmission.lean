/-
# A shown postfix form as a new expression

A calculation shows the postfix form of its expression, and that text can be given to the
calculator again, as a postfix expression.  The answer is the same then, and so is the error
(`calculatePostfix_spaced`): the text reads as the tokens that it shows, and from the tokens
on there is one way to an answer.

On the command line the form is the second of three lines and the value the third one.  A
call with the same options and that form instead of the expression writes the third line
alone (`CommandLine.Request.lines_resubmitted`).
-/
import PostfixCalculator.Proofs.CommandLine.Options
import PostfixCalculator.Proofs.Postfix.Rereading

namespace PostfixCalculator

/-! ## 1. Calculations -/

section

variable {settings : Settings} {expression : String} {p : List Token}

/-- The postfix form, as it is shown, has the answer of the tokens. -/
theorem calculatePostfix_spaced (h : Postfix.ofExpression settings.lexicon expression = .ok p) :
    calculatePostfix settings (Token.spaced p) = answer settings p := by
  rw [calculatePostfix, Postfix.ofText_of_ofExpression h, ok_bind]

/-- **The shown postfix form has the answer of the calculation that showed it.** -/
theorem calculatePostfix_of_calculate {r : Result} (hr : calculate settings expression = .ok r) :
    calculatePostfix settings r.trace.postfixForm = .ok r.toAnswer := by
  obtain ⟨p, hp⟩ := ofExpression_of_calculate hr
  rw [postfixForm_of_calculate hp hr, calculatePostfix_spaced hp, ← toAnswer_calculate hp, hr]
  rfl

end

/-! ## 2. The command line -/

namespace CommandLine.Request

variable {r : Request} {expression first shown line : String}

/-- What an infix expression makes the command line write comes from its calculation. -/
theorem of_lines_infix (hr : r.isPostfix = false)
    (h : r.lines expression = .ok [first, "postfixe : " ++ shown, line]) :
    ∃ found, calculate r.settings expression = .ok found ∧ found.trace.postfixForm = shown ∧
      found.display = line := by
  rw [lines, hr] at h
  obtain ⟨found, hfound, hlines⟩ := bind_eq_ok_iff.mp h
  have hwritten := Except.ok.inj hlines
  simp only [List.cons.injEq, String.append_right_inj, and_true] at hwritten
  exact ⟨found, hfound, hwritten.2⟩

/-- **The shown form makes it write the value again**, and nothing else. -/
theorem lines_resubmitted (hr : r.isPostfix = false)
    (h : r.lines expression = .ok [first, "postfixe : " ++ shown, line]) :
    { r with isPostfix := true }.lines shown = .ok [line] := by
  obtain ⟨found, hfound, rfl, rfl⟩ := of_lines_infix hr h
  have hpostfix : calculatePostfix { r with isPostfix := true }.settings
      found.trace.postfixForm = .ok found.toAnswer := calculatePostfix_of_calculate hfound
  rw [lines, if_pos rfl, hpostfix]
  rfl

theorem outcome_eq_lines_iff {text : List String} :
    r.outcome expression = .lines text ↔ r.lines expression = .ok text := by
  rw [outcome]
  cases r.lines expression with
  | ok found => simp
  | error e => simp

end CommandLine.Request

/-! ## 3. Both ways -/

/-- **An expression and its postfix form are calculated alike.**  Given as text, the form has
the value, the display and the error of the expression, and the expression shows that text.
So, whatever options the command line is called with, the text in its second line, given as
a postfix expression, makes it write its third line. -/
theorem calculated_alike_from_postfix_text (settings : Settings) (expression : String) :
    (∀ p, Postfix.ofExpression settings.lexicon expression = .ok p →
      (∀ found, calculatePostfix settings (Token.spaced p) = .ok found ↔
        ∃ r, calculate settings expression = .ok r ∧ r.toAnswer = found) ∧
      (∀ r, calculate settings expression = .ok r → r.trace.postfixForm = Token.spaced p) ∧
      ∀ e, calculatePostfix settings (Token.spaced p) = .error e ↔
        calculate settings expression = .error e) ∧
    ∀ (options : List String) (request : CommandLine.Request),
      CommandLine.Options options request → ∀ (given : List String),
        CommandLine.Gives expression given → ∀ first shown line,
          CommandLine.run (options ++ given) = .lines [first, "postfixe : " ++ shown, line] →
            ∀ again, CommandLine.Gives shown again →
              CommandLine.run (options ++ "--opn" :: again) = .lines [line] := by
  refine ⟨?_, ?_⟩
  · intro p h
    rw [calculatePostfix_spaced h, ← toAnswer_calculate h]
    refine ⟨?_, ?_, ?_⟩
    · exact fun found => map_eq_ok_iff
    · exact fun r hr => postfixForm_of_calculate h hr
    · exact fun e => map_eq_error_iff
  · intro options request hoptions given hgiven first shown line hrun again hagain
    rw [hoptions.run_infix hgiven, CommandLine.Request.outcome_eq_lines_iff] at hrun
    rw [hoptions.run_postfix hagain, CommandLine.Request.outcome_eq_lines_iff]
    exact CommandLine.Request.lines_resubmitted hoptions.isPostfix hrun

/-- A sum with a quotient, to three decimals. -/
theorem calculated_alike_third_and_half :
    Postfix.ofExpression .lenient "1/3+.5" =
        .ok [.num "1", .num "3", .op .divide, .num ".5", .op .plus] ∧
      (∀ e, calculatePostfix {} "1 3 / .5 +" = .error e ↔ calculate {} "1/3+.5" = .error e) ∧
      CommandLine.run ["--decimales=3", "1/3+.5"] =
        .lines ["jetons   : 1 / 3 + .5", "postfixe : " ++ "1 3 / .5 +", "=0.833"] ∧
      CommandLine.run ["--decimales=3", "--opn", "1 3 / .5 +"] = .lines ["=0.833"] := by
  have hsort : Postfix.ofExpression .lenient "1/3+.5" =
      .ok [.num "1", .num "3", .op .divide, .num ".5", .op .plus] :=
    eq_ok_of_toOption (by decide +kernel)
  have hoptions : CommandLine.Options ["--decimales=3"] { decimals := some 3 } :=
    ⟨by decide +kernel, by decide, rfl, rfl⟩
  have hrun : CommandLine.run ["--decimales=3", "1/3+.5"] =
      .lines ["jetons   : 1 / 3 + .5", "postfixe : " ++ "1 3 / .5 +", "=0.833"] := by
    decide +kernel
  have halike := calculated_alike_from_postfix_text {} "1/3+.5"
  have hagain := halike.2 _ _ hoptions ["1/3+.5"] (.word (by decide +kernel)) _ _ _ hrun
    ["1 3 / .5 +"] (.word (by decide +kernel))
  exact ⟨hsort, (halike.1 _ hsort).2.2, hrun, hagain⟩

end PostfixCalculator
