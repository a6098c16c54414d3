/-
# Options, and then an expression

Arguments are read from left to right, each with what was found before it.  So options that
are read to their end leave the rest of the arguments to be read on from there
(`Request.read_append`), and one call with the same options in front of another expression
differs from it by that expression alone (`Options.run_infix`, `Options.run_postfix`).  A request
for the help or the version behind them is answered as if it stood alone (`Options.run_request`).
-/
import PostfixCalculator.CommandLine

namespace PostfixCalculator.CommandLine

/-! ## 1. Reading on -/

/-- The separator has one spelling. -/
theorem Argument.eq_of_separator {text : String} (h : Argument.ofString text = .separator) :
    text = "--" := by
  unfold Argument.ofString at h
  split at h
  · rename_i hchars
    exact String.toList_inj.mp hchars
  · simp only [ofLong] at h
    split at h <;> exact absurd h nofun
  · exact absurd h nofun
  · exact absurd h nofun
  · exact absurd h nofun
  · exact absurd h nofun

namespace Request

variable {r r' : Request} {arguments : List String}

/-- **What is read to its end leaves the rest to be read on**, unless a separator changed how
the rest is read. -/
theorem read_append (rest : List String) (h : r.read arguments = some (.evaluate r'))
    (hsep : "--" ∉ arguments) : r.read (arguments ++ rest) = r'.read rest := by
  -- An option may take the next argument, so this is the induction of the reading itself.
  fun_induction read r arguments
  case case1 =>
    cases h
    rfl
  case case4 hargument =>
    rw [Argument.eq_of_separator hargument] at hsep
    exact absurd List.mem_cons_self hsep
  case case5 hargument ih | case6 hargument ih | case7 hargument ih =>
    obtain ⟨next, hnext, h⟩ := Option.bind_eq_some_iff.mp h
    simp only [List.cons_append, read, hargument, hnext, Option.bind_some]
    exact ih next h (List.not_mem_of_not_mem_cons hsep)
  case case9 hargument value more hdash ih =>
    obtain ⟨next, hnext, h⟩ := Option.bind_eq_some_iff.mp h
    simp only [List.cons_append, read, hargument, if_neg hdash, hnext, Option.bind_some]
    exact ih next h (List.not_mem_of_not_mem_cons (List.not_mem_of_not_mem_cons hsep))
  -- The help, the version, an unknown option and an option without its value end the reading.
  case case2 | case3 | case8 | case10 | case11 => cases h

end Request

/-- The arguments that give an expression: itself, where it cannot be taken for an option, or
the separator and then the expression, whatever it looks like. -/
inductive Gives (expression : String) : List String → Prop where
  | word : Argument.ofString expression = .word expression → Gives expression [expression]
  | separated : Gives expression ["--", expression]

namespace Request

variable {r : Request} {arguments : List String} {expression : String}

/-- An expression is read where there is none yet. -/
theorem read_given (h : Gives expression arguments) (hr : r.expression = none) :
    r.read arguments = some (.evaluate { r with expression := some expression }) := by
  cases h with
  | word hword => simp [read, hword, setExpression, fill, hr]
  | separated =>
    have hseparator : Argument.ofString "--" = .separator := rfl
    simp [read, hseparator, readWords, setExpression, fill, hr]

/-- The mark of postfix order is read like an option. -/
theorem read_mark (h : r.isPostfix = false) (rest : List String) :
    r.read ("--opn" :: rest) = { r with isPostfix := true }.read rest := by
  have hmark : Argument.ofString "--opn" = .postfixFlag := by decide +kernel
  simp [read, hmark, markPostfix, h]

end Request

/-! ## 2. Two calls with the same options -/

/-- Arguments that are options: they can be read to their end, and the expression is still to
come, in infix order as far as they say. -/
structure Options (arguments : List String) (r : Request) : Prop where
  read : Call.ofArguments? arguments = some (.evaluate r)
  separator : "--" ∉ arguments
  expression : r.expression = none
  isPostfix : r.isPostfix = false

namespace Options

variable {arguments given : List String} {r : Request} {expression : String}

/-- A call with the options and an infix expression. -/
theorem run_infix (h : Options arguments r) (hgiven : Gives expression given) :
    run (arguments ++ given) = r.outcome expression := by
  have hread : Call.ofArguments? (arguments ++ given) =
      some (.evaluate { r with expression := some expression }) := by
    rw [Call.ofArguments?, Request.read_append _ h.read h.separator,
      Request.read_given hgiven h.expression]
  rw [run, hread]
  rfl

/-- A call with the options and a postfix expression. -/
theorem run_postfix (h : Options arguments r) (hgiven : Gives expression given) :
    run (arguments ++ "--opn" :: given) = { r with isPostfix := true }.outcome expression := by
  have hread : Call.ofArguments? (arguments ++ "--opn" :: given) =
      some (.evaluate { r with isPostfix := true, expression := some expression }) := by
    rw [Call.ofArguments?, Request.read_append _ h.read h.separator,
      Request.read_mark h.isPostfix,
      Request.read_given (r := { r with isPostfix := true }) hgiven h.expression]
  rw [run, hread]
  rfl

/-- **A request for the help or the version** is answered behind options as it is alone, and
whatever comes behind it. -/
theorem run_request (h : Options arguments r) {text : String} (rest : List String)
    (hrequest : Argument.ofString text = .help ∨ Argument.ofString text = .version) :
    run (arguments ++ text :: rest) = run [text] := by
  have hread : Call.ofArguments? (arguments ++ text :: rest) = Call.ofArguments? [text] := by
    rw [Call.ofArguments?, Request.read_append _ h.read h.separator, Call.ofArguments?]
    rcases hrequest with hhelp | hversion
    · simp [Request.read, hhelp]
    · simp [Request.read, hversion]
  rw [run, hread, run]

end Options

end PostfixCalculator.CommandLine
