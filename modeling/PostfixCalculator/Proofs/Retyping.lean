/-
# The shown tokens typed again

A calculation shows the tokens of its expression, with one blank between neighbours.  As an
expression that text has the same tokens (`Token.scan_spaced`), under either lexicon, for a
blank is white space and nothing else is between them.  It keeps numbers apart that stand side
by side, and what is not a number needs no blank.

A calculation sees nothing of its expression but the tokens.  So the shown text has the result
of the expression, or its failure, and is shown as it is.
-/
import PostfixCalculator.Proofs.Postfix.Rereading
import PostfixCalculator.Proofs.Refusal

namespace PostfixCalculator

/-! ## 1. Tokens with single blanks -/

namespace Layout

/-- The tokens, each but the last one with a blank behind it. -/
def blankBehind : List Token → List (Token × List Char)
  | [] => []
  | [t] => [(t, [])]
  | t :: s :: tokens => (t, [' ']) :: blankBehind (s :: tokens)

@[simp] theorem map_fst_blankBehind (tokens : List Token) :
    (blankBehind tokens).map Prod.fst = tokens := by
  fun_induction blankBehind tokens with
  | case1 => rfl
  | case2 t => rfl
  | case3 t s tokens ih => rw [List.map_cons, ih]

/-- They are written as tokens are shown. -/
theorem spread_blankBehind (tokens : List Token) :
    spread (blankBehind tokens) = (Token.spaced tokens).toList := by
  rw [Token.toList_spaced]
  fun_induction blankBehind tokens with
  | case1 => rfl
  | case2 t => simp [spread]
  | case3 t s tokens ih =>
    rw [spread, List.flatMap_cons, ← spread, ih, List.map_cons, List.map_cons, List.map_cons,
      List.intercalate_cons_cons]

theorem isBlank_of_mem_blankBehind {tokens : List Token} :
    ∀ piece ∈ blankBehind tokens, ∀ c ∈ piece.2, Text.isBlank c = true := by
  fun_induction blankBehind tokens with
  | case1 => exact List.forall_mem_nil _
  | case2 t => exact List.forall_mem_singleton.mpr (List.forall_mem_nil _)
  | case3 t s tokens ih => exact List.forall_mem_cons.mpr ⟨List.forall_mem_singleton.mpr rfl, ih⟩

/-- Numbers side by side have their blank. -/
theorem separated_blankBehind (tokens : List Token) : Separated (blankBehind tokens) := by
  fun_induction blankBehind tokens with
  | case1 => exact .nil
  | case2 t => exact .singleton _
  | case3 t s tokens ih =>
    exact List.isChain_cons.mpr ⟨fun _ _ _ _ => List.cons_ne_nil _ _, ih⟩

end Layout

/-- **Tokens are read back from their spelling**, under either lexicon. -/
theorem Token.scan_spaced {tokens : List Token} (h : ∀ t ∈ tokens, t.Writable)
    (lexicon : Lexicon) : scan lexicon (spaced tokens) = .ok tokens := by
  have hwritable : ∀ piece ∈ Layout.blankBehind tokens, piece.1.Writable := by
    intro piece hpiece
    refine h piece.1 ?_
    rw [← Layout.map_fst_blankBehind tokens]
    exact List.mem_map_of_mem hpiece
  have hgap : ∀ piece ∈ Layout.blankBehind tokens, ∀ c ∈ piece.2, lexicon.separates c = true :=
    fun piece hpiece c hc =>
      Lexicon.separates_of_isBlank (Layout.isBlank_of_mem_blankBehind piece hpiece c hc) lexicon
  rw [scan, ← Layout.spread_blankBehind,
    Layout.scanFrom_spread hgap hwritable (Layout.separated_blankBehind tokens),
    Layout.map_fst_blankBehind]

/-! ## 2. Calculations -/

theorem tokens_of_calculate {settings : Settings} {expression : String} {tokens : List Token}
    {r : Result} (h : Token.scan settings.lexicon expression = .ok tokens)
    (hr : calculate settings expression = .ok r) : r.trace.tokens = Token.spaced tokens := by
  obtain ⟨p, hp⟩ := ofExpression_of_calculate hr
  obtain ⟨tokens', hscan, hsort⟩ := Postfix.ofExpression_eq_ok_iff.mp hp
  obtain rfl : tokens' = tokens := Except.ok.inj (hscan.symm.trans h)
  rw [calculate_of_ok hscan hsort] at hr
  obtain ⟨found, -, rfl⟩ := map_eq_ok_iff.mp hr
  rfl

/-- **The shown tokens are as good as the expression.**  Tokens that can be written are read
back from the text that shows them, under either lexicon.  So an expression and the text of
its tokens, which is what a calculation shows of them, have one result, with its value, its
display and its trace, or one failure, whatever the lexicon for the text. -/
theorem shown_tokens_calculate_alike :
    (∀ tokens : List Token, (∀ t ∈ tokens, t.Writable) →
      ∀ lexicon, Token.scan lexicon (Token.spaced tokens) = .ok tokens) ∧
    ∀ (settings : Settings) (expression : String) (tokens : List Token),
      Token.scan settings.lexicon expression = .ok tokens →
        (∀ r, calculate settings expression = .ok r → r.trace.tokens = Token.spaced tokens) ∧
          ∀ lexicon, calculate { settings with lexicon } (Token.spaced tokens) =
            calculate settings expression := by
  refine ⟨fun tokens h => Token.scan_spaced h, fun settings expression tokens h => ⟨?_, ?_⟩⟩
  · exact fun r hr => tokens_of_calculate h hr
  · intro lexicon
    have hspaced : Token.scan lexicon (Token.spaced tokens) = .ok tokens :=
      Token.scan_spaced (Token.writable_of_mem_scan h) lexicon
    exact calculate_of_scan_eq (hspaced.trans h.symm)

/-- Numbers side by side, and an expression with a letter in it that the strict lexicon would
refuse: its tokens have the same failure there. -/
theorem shown_tokens_calculate_alike_without_letter :
    ((∀ t ∈ [Token.num "1.5", .num "2", .rparen], t.Writable) ∧
      Token.scan .strict "1.5 2 )" = .ok [.num "1.5", .num "2", .rparen]) ∧
    Token.scan .lenient "6x/(1 -1)" =
        .ok [.num "6", .op .divide, .lparen, .num "1", .op .minus, .num "1", .rparen] ∧
      calculate { lexicon := .strict, arithmetic := .exact } "6 / ( 1 - 1 )" =
        calculate { arithmetic := .exact } "6x/(1 -1)" := by
  have hwritable : ∀ t ∈ [Token.num "1.5", .num "2", .rparen], t.Writable := by
    simp [Token.Writable, Token.inNumber]
  have hread : Token.scan .lenient "6x/(1 -1)" =
      .ok [.num "6", .op .divide, .lparen, .num "1", .op .minus, .num "1", .rparen] :=
    eq_ok_of_toOption (by decide +kernel)
  exact ⟨⟨hwritable, shown_tokens_calculate_alike.1 _ hwritable .strict⟩, hread,
    (shown_tokens_calculate_alike.2 { arithmetic := .exact } _ _ hread).2 .strict⟩

end PostfixCalculator
