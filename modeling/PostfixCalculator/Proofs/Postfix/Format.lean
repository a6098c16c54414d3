/-
# The format of postfix text

A postfix text is a list of words, with white space between them.  A word spells a token if it
is made of digits and points, or if it is the symbol of an operator.  A parenthesis spells
none, and neither does a symbol that is written twice.

So reading and writing undo one another as far as can be: tokens are read back from the text
that they are written as, if there is no parenthesis among them, and a text that is read is
written again with its white space made into single blanks.  A text is refused just if a word
of it spells no token, and the first such word is named (`postfix_text_round_trip`).
-/
import PostfixCalculator.Proofs.Postfix.Rereading

namespace PostfixCalculator

namespace Postfix

/-! ## 1. Words -/

/-- Is the word made of digits and points, or the symbol of an operator? -/
def spellsToken (word : List Char) : Bool :=
  word.all Token.inNumber || [['+'], ['-'], ['*'], ['/']].contains word

variable {word : List Char} {t : Token}

/-- **The tokens that words write**: numbers by their text, operators by their symbols. -/
theorem tokenOfWord?_eq_some_iff : tokenOfWord? word = some t ↔
    word.all Token.inNumber = true ∧ t = .num (String.ofList word) ∨
      ∃ o, word = [Operator.symbol o] ∧ t = .op o := by
  constructor
  · intro h
    unfold tokenOfWord? at h
    split at h
    case isTrue hnumber => exact .inl ⟨hnumber, (Option.some.inj h).symm⟩
    case isFalse =>
      split at h
      · obtain ⟨o, ho, rfl⟩ := Option.map_eq_some_iff.mp h
        exact .inr ⟨o, by rw [Operator.ofSymbol?_eq_some_iff.mp ho], rfl⟩
      · exact absurd h (by simp)
  · rintro (⟨hnumber, rfl⟩ | ⟨o, rfl, rfl⟩)
    · exact tokenOfWord?_of_all hnumber
    · cases o <;> rfl

theorem isSymbol_iff : [['+'], ['-'], ['*'], ['/']].contains word = true ↔
    ∃ o, word = [Operator.symbol o] := by
  constructor
  · intro h
    have hword : word = ['+'] ∨ word = ['-'] ∨ word = ['*'] ∨ word = ['/'] := by simpa using h
    rcases hword with rfl | rfl | rfl | rfl
    · exact ⟨.plus, rfl⟩
    · exact ⟨.minus, rfl⟩
    · exact ⟨.times, rfl⟩
    · exact ⟨.divide, rfl⟩
  · rintro ⟨o, rfl⟩
    cases o <;> rfl

theorem spellsToken_iff : spellsToken word = true ↔ ∃ t, tokenOfWord? word = some t := by
  rw [spellsToken, Bool.or_eq_true, isSymbol_iff]
  constructor
  · rintro (hnumber | ⟨o, ho⟩)
    · exact ⟨_, tokenOfWord?_eq_some_iff.mpr (.inl ⟨hnumber, rfl⟩)⟩
    · exact ⟨_, tokenOfWord?_eq_some_iff.mpr (.inr ⟨o, ho, rfl⟩)⟩
  · rintro ⟨t, ht⟩
    rcases tokenOfWord?_eq_some_iff.mp ht with ⟨hnumber, -⟩ | ⟨o, ho, -⟩
    · exact .inl hnumber
    · exact .inr ⟨o, ho⟩

/-- A word that spells a token is read. -/
theorem exists_readWord (h : spellsToken word = true) : ∃ t, readWord word = .ok t := by
  obtain ⟨t, ht⟩ := spellsToken_iff.mp h
  exact ⟨t, by rw [readWord, ht]⟩

/-- Any other word is refused by name. -/
theorem readWord_eq_error (h : spellsToken word = false) :
    readWord word = .error (.unknownOperator (String.ofList word)) := by
  have hnone : tokenOfWord? word = none := by
    rw [Option.eq_none_iff_forall_ne_some]
    rintro t ht
    rw [spellsToken_iff.mpr ⟨t, ht⟩] at h
    exact absurd h (by simp)
  rw [readWord, hnone]

/-- A word that is read spells its token. -/
theorem text_of_readWord (h : readWord word = .ok t) : t.text = String.ofList word := by
  have ht : tokenOfWord? word = some t := by
    unfold readWord at h
    split at h
    case h_1 s hs => rw [hs, Except.ok.inj h]
    case h_2 => exact absurd h (by simp)
  rcases tokenOfWord?_eq_some_iff.mp ht with ⟨-, rfl⟩ | ⟨o, rfl, rfl⟩
  · rfl
  · rfl

/-! ## 2. Texts -/

/-- **When a postfix text is refused**: at its first word that spells no token. -/
theorem ofText_eq_error_iff {text : String} {e : CalcError} : ofText text = .error e ↔
    ∃ word, (Text.words text.toList).find? (!spellsToken ·) = some word ∧
      e = .unknownOperator (String.ofList word) := by
  rw [ofText]
  refine mapM_eq_error_iff (fun word _ h => ?_) (fun word _ h => ?_)
  · exact readWord_eq_error (by simpa using h)
  · exact exists_readWord (by simpa using h)

/-- **When the spelling of tokens is refused**: at their first parenthesis. -/
theorem ofText_spaced_eq_error_iff {p : List Token} (hw : ∀ t ∈ p, t.Writable) {e : CalcError} :
    ofText (Token.spaced p) = .error e ↔
      ∃ t, p.find? Token.isParen = some t ∧ e = .unknownOperator t.text := by
  rw [ofText_spaced_eq hw]
  refine mapM_eq_error_iff (fun t _ h => ?_) (fun t ht h => ⟨t, readWord_text (hw t ht) h⟩)
  cases t with
  | num text => exact absurd h Bool.false_ne_true
  | op o => exact absurd h Bool.false_ne_true
  | lparen => rfl
  | rparen => rfl

/-- **A text that is read is written again** with single blanks between its words. -/
theorem spaced_of_ofText {text : String} {q : List Token} (h : ofText text = .ok q) :
    Token.spaced q = String.intercalate " " ((Text.words text.toList).map String.ofList) := by
  rw [Token.spaced, map_eq_of_mapM (fun _ _ => text_of_readWord) h]

end Postfix

/-- **Postfix text and postfix tokens go back and forth.**  Tokens without a parenthesis are
read back from their spelling, and tokens with one are refused, at the first.  A text that is
read is written again as its words, with single blanks between them, and a text is refused just
if a word of it spells no token, at the first such word. -/
theorem postfix_text_round_trip :
    (∀ p : List Token, (∀ t ∈ p, t.Writable) →
      (p.find? Token.isParen = none → Postfix.ofText (Token.spaced p) = .ok p) ∧
      ∀ t, p.find? Token.isParen = some t →
        Postfix.ofText (Token.spaced p) = .error (.unknownOperator t.text)) ∧
    ∀ text : String, Text.MadeOf text.toList (Text.words text.toList) ∧
      (∀ q, Postfix.ofText text = .ok q → Token.spaced q =
        String.intercalate " " ((Text.words text.toList).map String.ofList)) ∧
      ∀ e, Postfix.ofText text = .error e ↔
        ∃ word, (Text.words text.toList).find? (!Postfix.spellsToken ·) = some word ∧
          e = .unknownOperator (String.ofList word) := by
  refine ⟨fun p hw => ⟨fun hnone => ?_, fun t ht => ?_⟩, fun text => ⟨?_, ?_, ?_⟩⟩
  · exact Postfix.ofText_spaced hw (by simpa using hnone)
  · exact (Postfix.ofText_spaced_eq_error_iff hw).mpr ⟨t, ht, rfl⟩
  · exact Text.madeOf_words text.toList
  · exact fun q => Postfix.spaced_of_ofText
  · exact fun e => Postfix.ofText_eq_error_iff

/-- The spelling `1 (.5 +` of tokens is refused at the parenthesis, and the text ` 1  2 ++ )` at
the doubled symbol, which comes first. -/
theorem postfix_text_round_trip_refused :
    Postfix.ofText (Token.spaced [.num "1", .lparen, .num ".5", .op .plus]) =
        .error (.unknownOperator "(") ∧
      Postfix.ofText " 1  2 ++ )" = .error (.unknownOperator "++") := by
  have hwritable : ∀ t ∈ [Token.num "1", .lparen, .num ".5", .op .plus], t.Writable := by
    simp [Token.Writable, Token.inNumber]
  constructor
  · exact (postfix_text_round_trip.1 _ hwritable).2 .lparen (by decide)
  · exact ((postfix_text_round_trip.2 _).2.2 _).mpr ⟨['+', '+'], by decide +kernel, rfl⟩

end PostfixCalculator
