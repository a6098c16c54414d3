/-
# How the scan goes on

The scan reads a text from the left and never goes back.  Of what comes next there are four
kinds, and each has an equation here: a number that ends where its characters end
(`scanFrom_number`), a symbol (`scanFrom_symbol`), a character that is skipped
(`scanFrom_skip`), and one that is refused (`scanFrom_refuse`).  The equations need no other
fact about the scan, and `scan_induction` goes through a text by the same kinds, so no later
proof opens the definition of the scan.

The alphabet of the tokens and the white space are apart, so that a skipped character is
never part of a token, under either lexicon.
-/
import PostfixCalculator.Proofs.Outcome
import PostfixCalculator.Token.Scan

namespace PostfixCalculator

/-! ## 1. Classes of characters -/

namespace Token

/-- The characters that tokens are made of: digits, the point, four operators and two
parentheses. -/
def inAlphabet (c : Char) : Bool := inNumber c || (ofSymbol? c).isSome

theorem inAlphabet_eq_false_iff {c : Char} :
    inAlphabet c = false ↔ inNumber c = false ∧ ofSymbol? c = none := by
  simp [inAlphabet]

/-- A character that is a token on its own is a parenthesis or an operator. -/
theorem cases_of_ofSymbol? {c : Char} {t : Token} (h : ofSymbol? c = some t) :
    c = '(' ∧ t = .lparen ∨ c = ')' ∧ t = .rparen ∨ ∃ o : Operator, c = o.symbol ∧ t = .op o := by
  unfold ofSymbol? at h
  split at h
  · exact Or.inl ⟨rfl, (Option.some.inj h).symm⟩
  · exact Or.inr (Or.inl ⟨rfl, (Option.some.inj h).symm⟩)
  · obtain ⟨o, ho, rfl⟩ := Option.map_eq_some_iff.mp h
    exact Or.inr (Or.inr ⟨o, Operator.ofSymbol?_eq_some_iff.mp ho, rfl⟩)

/-- A symbol is no part of a number. -/
theorem inNumber_of_ofSymbol? {c : Char} {t : Token} (h : ofSymbol? c = some t) :
    inNumber c = false := by
  rcases cases_of_ofSymbol? h with ⟨rfl, -⟩ | ⟨rfl, -⟩ | ⟨o, rfl, -⟩
  · rfl
  · rfl
  · cases o <;> rfl

/-- The characters of the tokens, one by one. -/
def alphabet : List Char := "0123456789.+-*/()".toList

/-- **The alphabet has no other characters.** -/
theorem mem_alphabet_iff {c : Char} : c ∈ alphabet ↔ inAlphabet c = true := by
  constructor
  · have hall : alphabet.all inAlphabet = true := rfl
    exact List.all_eq_true.mp hall c
  · intro h
    have hdigits : ∀ n < '9'.toNat + 1, '0'.toNat ≤ n → Char.ofNat n ∈ alphabet := by decide
    rcases (Bool.or_eq_true _ _).mp h with h | h
    · rcases (Bool.or_eq_true _ _).mp h with h | h
      · obtain ⟨hlo, hhi⟩ := Char.isDigit_iff_toNat.mp h
        have hdigit := hdigits c.toNat (Nat.lt_succ_of_le hhi) hlo
        rwa [Char.ofNat_toNat] at hdigit
      · rw [beq_iff_eq.mp h]
        decide
    · obtain ⟨t, ht⟩ := Option.isSome_iff_exists.mp h
      rcases cases_of_ofSymbol? ht with ⟨rfl, -⟩ | ⟨rfl, -⟩ | ⟨o, rfl, -⟩
      · decide
      · decide
      · cases o <;> decide

theorem not_mem_alphabet_iff {c : Char} : c ∉ alphabet ↔ inAlphabet c = false := by
  rw [mem_alphabet_iff, Bool.not_eq_true]

/-- The alphabet is part of one stretch of code points. -/
theorem toNat_of_inAlphabet {c : Char} (h : inAlphabet c = true) :
    '('.toNat ≤ c.toNat ∧ c.toNat ≤ '9'.toNat := by
  have hall : alphabet.all (fun c => '('.toNat ≤ c.toNat ∧ c.toNat ≤ '9'.toNat) = true := rfl
  exact of_decide_eq_true (List.all_eq_true.mp hall c (mem_alphabet_iff.mpr h))

/-- **White space is outside the alphabet.**  The stretch of the alphabet lies between two
ranges of white space. -/
theorem inAlphabet_of_isBlank {c : Char} (h : Text.isBlank c = true) : inAlphabet c = false := by
  have hapart : ∀ r ∈ Text.blankRanges.bounds, r.2 < '('.toNat ∨ '9'.toNat < r.1 := by decide
  obtain ⟨r, hr, hlo, hhi⟩ := Text.Ranges.contains_iff.mp h
  rw [← Bool.not_eq_true]
  intro hc
  obtain ⟨hcl, hch⟩ := toNat_of_inAlphabet hc
  rcases hapart r hr with hlt | hlt
  · exact Nat.lt_irrefl _ (Nat.lt_of_le_of_lt (Nat.le_trans hcl hhi) hlt)
  · exact Nat.lt_irrefl _ (Nat.lt_of_lt_of_le hlt (Nat.le_trans hlo hch))

end Token

/-- The characters that may stand between tokens without a trace: white space, and under the
lenient lexicon whatever is outside the alphabet. -/
def Lexicon.separates : Lexicon → Char → Bool
  | .lenient, c => !Token.inAlphabet c
  | .strict, c => Text.isBlank c

/-- Such a character is outside the alphabet, and the scan skips it. -/
theorem Lexicon.separates_iff {lexicon : Lexicon} {c : Char} :
    lexicon.separates c = true ↔ Token.inAlphabet c = false ∧ lexicon.skips c = true := by
  cases lexicon with
  | lenient => simp [separates, skips]
  | strict => exact ⟨fun h => ⟨Token.inAlphabet_of_isBlank h, h⟩, And.right⟩

/-- White space separates tokens under every lexicon. -/
theorem Lexicon.separates_of_isBlank {c : Char} (h : Text.isBlank c = true) (lexicon : Lexicon) :
    lexicon.separates c = true := by
  cases lexicon with
  | lenient => simp [separates, Token.inAlphabet_of_isBlank h]
  | strict => exact h

/-! ## 2. One step of the scan -/

namespace Token

variable {lexicon : Lexicon} {position : Nat}

theorem scanFrom_nil : scanFrom lexicon position [] = .ok [] := by rw [scanFrom]

/-- **A number is read to its end.**  `digits` is the number when what follows it cannot be
part of one. -/
theorem scanFrom_number {digits rest : List Char} (hne : digits ≠ [])
    (hdigits : ∀ c ∈ digits, inNumber c = true) (hrest : ∀ c ∈ rest.head?, inNumber c = false) :
    scanFrom lexicon position (digits ++ rest) =
      (.num (String.ofList digits) :: ·) <$>
        scanFrom lexicon (position + digits.length) rest := by
  have hstop : rest.takeWhile inNumber = [] ∧ rest.dropWhile inNumber = rest := by
    cases rest with
    | nil => exact ⟨rfl, rfl⟩
    | cons c rest => simp [hrest c rfl]
  cases digits with
  | nil => exact absurd rfl hne
  | cons d ds =>
    have hds : ∀ c ∈ ds, inNumber c = true := fun c hc => hdigits c (List.mem_cons_of_mem d hc)
    rw [List.cons_append, scanFrom, if_pos (hdigits d List.mem_cons_self)]
    simp only [List.takeWhile_append_of_pos hds, List.dropWhile_append_of_pos hds, hstop,
      List.append_nil, List.length_cons, Nat.add_assoc, Nat.add_comm 1]

theorem scanFrom_symbol {c : Char} {rest : List Char} {t : Token} (h : ofSymbol? c = some t) :
    scanFrom lexicon position (c :: rest) =
      (t :: ·) <$> scanFrom lexicon (position + 1) rest := by
  rw [scanFrom, if_neg (by rw [inNumber_of_ofSymbol? h]; exact Bool.false_ne_true), h]

theorem scanFrom_skip {c : Char} {rest : List Char} (h : lexicon.separates c = true) :
    scanFrom lexicon position (c :: rest) = scanFrom lexicon (position + 1) rest := by
  obtain ⟨hout, hskip⟩ := Lexicon.separates_iff.mp h
  obtain ⟨hnumber, hsymbol⟩ := inAlphabet_eq_false_iff.mp hout
  rw [scanFrom, if_neg (by rw [hnumber]; exact Bool.false_ne_true), hsymbol]
  exact if_pos hskip

/-- Only the strict lexicon refuses, and only what is neither of the alphabet nor white
space. -/
theorem scanFrom_refuse {c : Char} {rest : List Char} (hout : inAlphabet c = false)
    (h : lexicon.separates c = false) :
    scanFrom lexicon position (c :: rest) = .error (.unexpectedCharacter c position) := by
  obtain ⟨hnumber, hsymbol⟩ := inAlphabet_eq_false_iff.mp hout
  have hskip : ¬ lexicon.skips c = true := by
    intro hskip
    rw [Lexicon.separates_iff.mpr ⟨hout, hskip⟩] at h
    exact absurd h (by decide)
  rw [scanFrom, if_neg (by rw [hnumber]; exact Bool.false_ne_true), hsymbol]
  exact if_neg hskip

/-- **Induction along the scan.**  A text is empty, or it begins with a whole number, with a
symbol, or with a character outside the alphabet. -/
@[elab_as_elim]
theorem scan_induction {motive : List Char → Prop} (nil : motive [])
    (number : ∀ digits rest : List Char, digits ≠ [] → (∀ c ∈ digits, inNumber c = true) →
      (∀ c ∈ rest.head?, inNumber c = false) → motive rest → motive (digits ++ rest))
    (symbol : ∀ (c : Char) (t : Token) (rest : List Char), ofSymbol? c = some t → motive rest →
      motive (c :: rest))
    (outside : ∀ (c : Char) (rest : List Char), inAlphabet c = false → motive rest →
      motive (c :: rest))
    (cs : List Char) : motive cs := by
  have hfrom : ∀ position : Nat, motive cs := by
    intro position
    fun_induction scanFrom .lenient position cs with
    | case1 position => exact nil
    | case2 position c rest hc more ih =>
      have hsplit : c :: rest = (c :: more) ++ rest.dropWhile inNumber := by
        rw [List.cons_append, List.takeWhile_append_dropWhile]
      have hdigits : ∀ d ∈ c :: more, inNumber d = true :=
        List.forall_mem_cons.mpr ⟨hc, List.all_eq_true.mp List.all_takeWhile⟩
      have hstop : ∀ d ∈ (rest.dropWhile inNumber).head?, inNumber d = false := by
        intro d hd
        have hhead := List.head?_dropWhile_not inNumber rest
        rw [Option.mem_def.mp hd] at hhead
        exact (Bool.not_eq_true _).mp (by simpa using hhead)
      rw [hsplit]
      exact number _ _ (List.cons_ne_nil c more) hdigits hstop ih
    | case3 position c rest hc t ht ih => exact symbol c t rest ht ih
    | case4 position c rest hc hsymbol hskip ih =>
      exact outside c rest
        (inAlphabet_eq_false_iff.mpr ⟨(Bool.not_eq_true _).mp hc, hsymbol⟩) ih
    | case5 position c rest hc hsymbol hskip => exact absurd rfl hskip
  exact hfrom 0

/-! ## 3. Failures -/

end Token

end PostfixCalculator
