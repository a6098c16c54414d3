/-
# A postfix form read back

The postfix form of an expression is shown as text, its tokens spaced by single blanks.  Read
as postfix text, it gives the same tokens again (`Postfix.ofText_spaced`).  Three things have
to fit for that.

* The scan makes numbers of digits and points only, at least one of them, so that each is a
  word that reads as a number (`Token.writable_of_mem_scan`).
* Sorting adds no token, and it leaves the parentheses out, which are no words of a postfix
  text (`Postfix.perm_of_ofInfix`).
* No token has white space in its spelling, so that the blanks between the tokens are all
  there are (`Token.isWord_text`).
-/
import PostfixCalculator.Proofs.Calculation
import PostfixCalculator.Proofs.Postfix.Conservation
import PostfixCalculator.Proofs.Text.Words
import PostfixCalculator.Proofs.Token.Layout

namespace PostfixCalculator

/-! ## 1. Spellings -/

namespace Token

theorem isBlank_of_inAlphabet {c : Char} (h : inAlphabet c = true) : Text.isBlank c = false := by
  rw [← Bool.not_eq_true]
  intro hblank
  rw [inAlphabet_of_isBlank hblank] at h
  exact absurd h (by decide)

theorem inAlphabet_of_inNumber {c : Char} (h : inNumber c = true) : inAlphabet c = true := by
  rw [inAlphabet, h, Bool.true_or]

theorem inAlphabet_of_ofSymbol? {c : Char} {t : Token} (h : ofSymbol? c = some t) :
    inAlphabet c = true := by
  rw [inAlphabet, h, Option.isSome_some, Bool.or_true]

/-- The spelling of a token is one word. -/
theorem isWord_text {t : Token} (h : t.Writable) : Text.IsWord t.text.toList := by
  cases ht : t.isNumber with
  | true =>
    cases t with
    | num text =>
      obtain ⟨hne, hdigits⟩ := h
      refine ⟨fun hnil => hne (String.toList_eq_nil_iff.mp hnil), ?_⟩
      exact fun c hc => isBlank_of_inAlphabet (inAlphabet_of_inNumber (hdigits c hc))
    | op o => exact absurd ht (by simp [isNumber])
    | lparen => exact absurd ht (by simp [isNumber])
    | rparen => exact absurd ht (by simp [isNumber])
  | false =>
    obtain ⟨c, hc, hsymbol⟩ := exists_symbol ht
    rw [hc]
    refine ⟨List.cons_ne_nil c [], ?_⟩
    rintro d hd
    rw [List.mem_singleton.mp hd]
    exact isBlank_of_inAlphabet (inAlphabet_of_ofSymbol? hsymbol)

theorem toList_spaced (tokens : List Token) :
    (spaced tokens).toList = [' '].intercalate (tokens.map (·.text.toList)) := by
  rw [spaced, String.toList_intercalate, List.map_map]
  rfl

/-- **The scan makes numbers of the characters of numbers**, and never an empty one. -/
theorem writable_of_mem_scan {lexicon : Lexicon} {text : String} {tokens : List Token}
    (h : scan lexicon text = .ok tokens) : ∀ t ∈ tokens, t.Writable := by
  have hfrom : ∀ (position : Nat) (cs : List Char) (tokens : List Token),
      scanFrom lexicon position cs = .ok tokens → ∀ t ∈ tokens, t.Writable := by
    intro position cs
    -- A number takes several characters at once, so this is the induction of the scan itself.
    fun_induction scanFrom lexicon position cs with
    | case1 position =>
      rintro tokens h
      obtain rfl := Except.ok.inj h
      exact List.forall_mem_nil _
    | case2 position c rest hc more ih =>
      rintro tokens h
      obtain ⟨tail, htail, rfl⟩ := map_eq_ok_iff.mp h
      have hmore : ∀ d ∈ rest.takeWhile inNumber, inNumber d = true :=
        List.all_eq_true.mp List.all_takeWhile
      refine List.forall_mem_cons.mpr ⟨⟨?_, ?_⟩, ih _ htail⟩
      · exact fun hempty => List.cons_ne_nil _ _ (String.ofList_eq_empty_iff.mp hempty)
      · rw [String.toList_ofList]
        exact List.forall_mem_cons.mpr ⟨hc, hmore⟩
    | case3 position c rest hc t ht ih =>
      rintro tokens h
      obtain ⟨tail, htail, rfl⟩ := map_eq_ok_iff.mp h
      refine List.forall_mem_cons.mpr ⟨?_, ih _ htail⟩
      rcases cases_of_ofSymbol? ht with ⟨-, rfl⟩ | ⟨-, rfl⟩ | ⟨o, -, rfl⟩
      · trivial
      · trivial
      · trivial
    | case4 position c rest hc hsymbol hskip ih => exact ih
    | case5 position c rest hc hsymbol hskip => exact fun _ h => absurd h (by simp)
  exact hfrom _ _ _ h

end Token

/-! ## 2. Postfix text -/

namespace Postfix

theorem tokenOfWord?_of_all {word : List Char} (h : word.all Token.inNumber = true) :
    tokenOfWord? word = some (.num (String.ofList word)) := by
  unfold tokenOfWord?
  exact if_pos h

/-- The spelling of a number or of an operator reads as that token. -/
theorem readWord_text {t : Token} (hw : t.Writable) (hp : t.isParen = false) :
    readWord t.text.toList = .ok t := by
  cases t with
  | num text =>
    have hall : text.toList.all Token.inNumber = true := List.all_eq_true.mpr hw.2
    rw [Token.text, readWord, tokenOfWord?_of_all hall, String.ofList_toList]
  | op o => cases o <;> rfl
  | lparen => exact absurd hp (by decide)
  | rparen => exact absurd hp (by decide)

/-- The words of a spelling are the spellings of the tokens. -/
theorem ofText_spaced_eq {p : List Token} (hw : ∀ t ∈ p, t.Writable) :
    ofText (Token.spaced p) = p.mapM fun t => readWord t.text.toList := by
  have hwords : Text.words (Token.spaced p).toList = p.map (·.text.toList) := by
    rw [Token.toList_spaced]
    refine Text.words_intercalate ?_
    intro w hmem
    obtain ⟨t, ht, rfl⟩ := List.mem_map.mp hmem
    exact Token.isWord_text (hw t ht)
  rw [ofText, hwords, List.mapM_map]
  rfl

/-- **Postfix tokens are read back from their spelling.** -/
theorem ofText_spaced {p : List Token} (hw : ∀ t ∈ p, t.Writable)
    (hp : ∀ t ∈ p, t.isParen = false) : ofText (Token.spaced p) = .ok p := by
  rw [ofText_spaced_eq hw]
  induction p with
  | nil => rfl
  | cons t p ih =>
    have ht := readWord_text (hw t List.mem_cons_self) (hp t List.mem_cons_self)
    have hrest := ih (fun s hs => hw s (List.mem_cons_of_mem t hs))
      (fun s hs => hp s (List.mem_cons_of_mem t hs))
    rw [List.mapM_cons, ht, ok_bind, hrest]
    rfl

/-- **A postfix form is read back from its spelling.** -/
theorem ofText_of_ofExpression {lexicon : Lexicon} {expression : String} {p : List Token}
    (h : ofExpression lexicon expression = .ok p) : ofText (Token.spaced p) = .ok p := by
  obtain ⟨tokens, hscan, hsort⟩ := ofExpression_eq_ok_iff.mp h
  refine ofText_spaced ?_ (fun t ht => isParen_of_mem_ofInfix hsort ht)
  exact fun t ht => Token.writable_of_mem_scan hscan t (mem_of_mem_ofInfix hsort ht)

end Postfix

end PostfixCalculator
