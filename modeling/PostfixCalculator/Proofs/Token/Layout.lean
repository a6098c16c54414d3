/-
# Ways to write tokens

A layout writes tokens as text: something before the first token, and each token with
something behind it.  What stands between the tokens separates them under the lexicon, which
is white space, or under the lenient lexicon anything outside the alphabet.  Gaps may be
empty.

Only where two numbers follow one another does a gap have to be there, for otherwise they
would be read as one.  A layout that heeds this (`Layout.Apart`) is read back as the tokens
that it writes (`Layout.scan_text`).
-/
import PostfixCalculator.Proofs.Token.Scanning
import Mathlib.Data.List.Chain

namespace PostfixCalculator

/-! ## 1. Layouts -/

namespace Token

/-- Is it a number? -/
def isNumber : Token → Bool
  | num _ => true
  | _ => false

/-- A number that can be written: it has characters, and all are those of numbers.  The other
tokens can be written as they are. -/
def Writable : Token → Prop
  | num text => text ≠ "" ∧ ∀ c ∈ text.toList, inNumber c = true
  | _ => True

/-- What is not a number is written by one character, its symbol. -/
theorem exists_symbol {t : Token} (h : t.isNumber = false) :
    ∃ c, t.text.toList = [c] ∧ ofSymbol? c = some t := by
  cases t with
  | num text => exact absurd h (by simp [isNumber])
  | op o => exact ⟨o.symbol, by simp [text, Char.toString], by cases o <;> rfl⟩
  | lparen => exact ⟨'(', rfl, rfl⟩
  | rparen => exact ⟨')', rfl, rfl⟩

end Token

/-- A way to write tokens under a lexicon. -/
structure Layout (lexicon : Lexicon) where
  /-- What stands before the first token. -/
  lead : List Char
  /-- The tokens, each with the gap behind it. -/
  pieces : List (Token × List Char)
  lead_separates : ∀ c ∈ lead, lexicon.separates c = true
  gap_separates : ∀ piece ∈ pieces, ∀ c ∈ piece.2, lexicon.separates c = true
  writable : ∀ piece ∈ pieces, piece.1.Writable

namespace Layout

/-- The characters of tokens with their gaps. -/
def spread (pieces : List (Token × List Char)) : List Char :=
  pieces.flatMap fun piece => piece.1.text.toList ++ piece.2

/-- Two numbers in a row have a gap between them. -/
def Separated (pieces : List (Token × List Char)) : Prop :=
  pieces.IsChain fun p q => p.1.isNumber = true → q.1.isNumber = true → p.2 ≠ []

variable {lexicon : Lexicon}

/-- The tokens that are written. -/
def tokens (layout : Layout lexicon) : List Token := layout.pieces.map Prod.fst

/-- The text that writes them. -/
def text (layout : Layout lexicon) : String :=
  String.ofList (layout.lead ++ spread layout.pieces)

/-- No two numbers of the layout run into one another. -/
def Apart (layout : Layout lexicon) : Prop := Separated layout.pieces

/-- A layout without gaps. -/
def tight (tokens : List Token) (h : ∀ t ∈ tokens, t.Writable) : Layout lexicon where
  lead := []
  pieces := tokens.map (·, [])
  lead_separates := List.forall_mem_nil _
  gap_separates := by simp
  writable := by simpa using h

@[simp] theorem tokens_tight (tokens : List Token) (h : ∀ t ∈ tokens, t.Writable) :
    (tight tokens h : Layout lexicon).tokens = tokens := by
  rw [Layout.tokens, tight, List.map_map]
  exact List.map_id tokens

/-! ## 2. Reading a layout -/

theorem scanFrom_gap {gap : List Char} (h : ∀ c ∈ gap, lexicon.separates c = true)
    (rest : List Char) : ∀ position : Nat,
      Token.scanFrom lexicon position (gap ++ rest) =
        Token.scanFrom lexicon (position + gap.length) rest := by
  induction gap with
  | nil => exact fun position => rfl
  | cons c gap ih =>
    intro position
    rw [List.cons_append, Token.scanFrom_skip (h c List.mem_cons_self),
      ih (fun d hd => h d (List.mem_cons_of_mem c hd)), List.length_cons, Nat.add_assoc,
      Nat.add_comm 1]

/-- After a number comes a character that ends it, if any comes at all: one of its gap, or
without a gap the symbol of the next token. -/
theorem head?_not_inNumber {t : Token} {gap : List Char} {pieces : List (Token × List Char)}
    (ht : t.isNumber = true) (hgap : ∀ c ∈ gap, lexicon.separates c = true)
    (hsep : Separated ((t, gap) :: pieces)) :
    ∀ c ∈ (gap ++ spread pieces).head?, Token.inNumber c = false := by
  cases gap with
  | cons c gap =>
    intro d hd
    obtain rfl : c = d := Option.some.inj hd
    have hout := (Lexicon.separates_iff.mp (hgap c List.mem_cons_self)).1
    exact (Token.inAlphabet_eq_false_iff.mp hout).1
  | nil =>
    cases pieces with
    | nil => simp [spread]
    | cons piece pieces =>
      have hnext : piece.1.isNumber = false := by
        rw [← Bool.not_eq_true]
        exact fun hp => (List.isChain_cons_cons.mp hsep).1 ht hp rfl
      obtain ⟨c, hc, hsymbol⟩ := Token.exists_symbol hnext
      intro d hd
      obtain rfl : c = d := by simpa [spread, hc] using hd
      exact Token.inNumber_of_ofSymbol? hsymbol

/-- **What is written apart is read back**, wherever it stands. -/
theorem scanFrom_spread {pieces : List (Token × List Char)}
    (hgap : ∀ piece ∈ pieces, ∀ c ∈ piece.2, lexicon.separates c = true)
    (hwritable : ∀ piece ∈ pieces, piece.1.Writable) (hsep : Separated pieces) :
    ∀ position : Nat,
      Token.scanFrom lexicon position (spread pieces) = .ok (pieces.map Prod.fst) := by
  induction pieces with
  | nil => exact fun position => Token.scanFrom_nil
  | cons piece pieces ih =>
    obtain ⟨t, gap⟩ := piece
    intro position
    have hg : ∀ c ∈ gap, lexicon.separates c = true := hgap _ List.mem_cons_self
    have hrest : ∀ position : Nat, Token.scanFrom lexicon position (gap ++ spread pieces) =
        .ok (pieces.map Prod.fst) := by
      intro position
      rw [scanFrom_gap hg]
      exact ih (fun p hp => hgap p (List.mem_cons_of_mem _ hp))
        (fun p hp => hwritable p (List.mem_cons_of_mem _ hp)) hsep.tail _
    have hsplit : spread ((t, gap) :: pieces) = t.text.toList ++ (gap ++ spread pieces) := by
      simp [spread]
    rw [hsplit]
    cases ht : t.isNumber with
    | true =>
      cases t with
      | num text =>
        obtain ⟨hne, hdigits⟩ := hwritable _ List.mem_cons_self
        have hchars : text.toList ≠ [] := fun h => hne (String.toList_eq_nil_iff.mp h)
        rw [Token.text, Token.scanFrom_number hchars hdigits (head?_not_inNumber ht hg hsep), hrest,
          String.ofList_toList]
        rfl
      | op o => exact absurd ht (by simp [Token.isNumber])
      | lparen => exact absurd ht (by simp [Token.isNumber])
      | rparen => exact absurd ht (by simp [Token.isNumber])
    | false =>
      obtain ⟨c, hc, hsymbol⟩ := Token.exists_symbol ht
      rw [hc, List.singleton_append, Token.scanFrom_symbol hsymbol, hrest]
      rfl

/-- **A layout is read as the tokens that it writes.** -/
theorem scan_text (layout : Layout lexicon) (h : layout.Apart) :
    Token.scan lexicon layout.text = .ok layout.tokens := by
  rw [Token.scan, text, String.toList_ofList, scanFrom_gap layout.lead_separates]
  exact scanFrom_spread layout.gap_separates layout.writable h _

end Layout

end PostfixCalculator
