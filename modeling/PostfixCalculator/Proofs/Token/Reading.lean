/-
# The tokens of a text

Under the lenient lexicon a text is made of numbers, of symbols, and of characters outside the
alphabet, which are passed over.  A number is as long as it can be, so that its end says what
may follow it.  With that said (`ReadAs`), the tokens of a text are known without the scan:
every text reads as some tokens, and these are the ones that the scan finds, wherever the text
stands.

Of two texts in a row the tokens are those of the one and those of the other
(`ReadAs.append`), unless a number goes on across the cut.  Then the last number of the one
and the first number of the other are one number (`ReadAs.append_number`).
-/
import PostfixCalculator.Proofs.Token.Scanning
import Mathlib.Data.List.Basic

namespace PostfixCalculator.Token

/-! ## 1. What a text reads as -/

/-- The text is made of these tokens in this order, with any characters outside the alphabet
between and around them, and none of its numbers could be longer. -/
inductive ReadAs : List Char → List Token → Prop where
  | nil : ReadAs [] []
  | number {digits rest : List Char} {tokens : List Token} :
    digits ≠ [] → (∀ c ∈ digits, inNumber c = true) → (∀ c ∈ rest.head?, inNumber c = false) →
    ReadAs rest tokens → ReadAs (digits ++ rest) (num (String.ofList digits) :: tokens)
  | symbol {c : Char} {t : Token} {rest : List Char} {tokens : List Token} :
    ofSymbol? c = some t → ReadAs rest tokens → ReadAs (c :: rest) (t :: tokens)
  | ignored {c : Char} {rest : List Char} {tokens : List Token} :
    inAlphabet c = false → ReadAs rest tokens → ReadAs (c :: rest) tokens

/-- **What a text reads as is what the scan finds**, wherever the text stands. -/
theorem ReadAs.scanFrom_eq {cs : List Char} {tokens : List Token} (h : ReadAs cs tokens) :
    ∀ position, scanFrom .lenient position cs = .ok tokens := by
  induction h with
  | nil => exact fun position => scanFrom_nil
  | number hne hdigits hstop _ ih =>
    intro position
    rw [scanFrom_number hne hdigits hstop, ih, map_ok]
  | symbol ht _ ih =>
    intro position
    rw [scanFrom_symbol ht, ih, map_ok]
  | ignored hout _ ih =>
    intro position
    rw [scanFrom_skip (by simp [Lexicon.separates, hout]), ih]

theorem ReadAs.unique {cs : List Char} {tokens tokens' : List Token} (h : ReadAs cs tokens)
    (h' : ReadAs cs tokens') : tokens = tokens' :=
  Except.ok.inj ((h.scanFrom_eq 0).symm.trans (h'.scanFrom_eq 0))

/-- Every text reads as some tokens. -/
theorem exists_readAs (cs : List Char) : ∃ tokens, ReadAs cs tokens := by
  induction cs using scan_induction with
  | nil => exact ⟨[], .nil⟩
  | number digits rest hne hdigits hstop ih =>
    obtain ⟨tokens, h⟩ := ih
    exact ⟨_, .number hne hdigits hstop h⟩
  | symbol c t rest ht ih =>
    obtain ⟨tokens, h⟩ := ih
    exact ⟨_, .symbol ht h⟩
  | outside c rest hout ih =>
    obtain ⟨tokens, h⟩ := ih
    exact ⟨tokens, .ignored hout h⟩

/-- A text of characters outside the alphabet has no tokens. -/
theorem readAs_nil_of_ignored {cs : List Char} (h : ∀ c ∈ cs, inAlphabet c = false) :
    ReadAs cs [] := by
  induction cs with
  | nil => exact .nil
  | cons c cs ih =>
    obtain ⟨hc, hcs⟩ := List.forall_mem_cons.mp h
    exact .ignored hc (ih hcs)

/-! ## 2. Two texts in a row -/

/-- A number goes on from the end of the one text to the beginning of the other. -/
def NumberAcross (cs ds : List Char) : Prop :=
  (∃ c ∈ cs.getLast?, inNumber c = true) ∧ ∃ d ∈ ds.head?, inNumber d = true

/-- Nothing goes on from a character that is none of a number's. -/
theorem not_numberAcross {c : Char} {cs ds : List Char} (hlast : c ∈ cs.getLast?)
    (hc : inNumber c = false) : ¬ NumberAcross cs ds := by
  rintro ⟨⟨d, hd, hnumber⟩, -⟩
  rw [← Option.mem_unique hlast hd, hc] at hnumber
  exact absurd hnumber Bool.false_ne_true

theorem NumberAcross.append_left {cs ds : List Char} (h : NumberAcross cs ds)
    (before : List Char) : NumberAcross (before ++ cs) ds := by
  obtain ⟨⟨c, hc, hnumber⟩, hd⟩ := h
  exact ⟨⟨c, List.mem_getLast?_append_of_mem_getLast? hc, hnumber⟩, hd⟩

/-- What stands before the end of the one text is of no account. -/
theorem NumberAcross.of_append (before : List Char) {cs ds : List Char} (hne : cs ≠ [])
    (h : NumberAcross (before ++ cs) ds) : NumberAcross cs ds := by
  rwa [NumberAcross, List.getLast?_append_of_ne_nil before hne] at h

/-- A number that goes on does not begin with a character that is none of a number's. -/
theorem NumberAcross.tail {c : Char} {cs ds : List Char} (hc : inNumber c = false)
    (h : NumberAcross (c :: cs) ds) : NumberAcross cs ds := by
  cases cs with
  | nil => exact absurd h (not_numberAcross rfl hc)
  | cons d cs => exact h.of_append [c] (List.cons_ne_nil d cs)

/-- Behind a number that ends the one text, the other begins with something else. -/
theorem not_inNumber_of_not_numberAcross {digits ds : List Char} (hne : digits ≠ [])
    (hdigits : ∀ c ∈ digits, inNumber c = true) (h : ¬ NumberAcross digits ds) :
    ∀ d ∈ ds.head?, inNumber d = false := by
  intro d hd
  rw [← Bool.not_eq_true]
  intro hnumber
  have hlast : digits.getLast hne ∈ digits.getLast? := List.getLast?_eq_some_getLast hne
  exact h ⟨⟨_, hlast, hdigits _ (List.getLast_mem hne)⟩, d, hd, hnumber⟩

namespace ReadAs

variable {cs ds : List Char} {tokens more : List Token}

/-- **Texts that no number joins are read one after the other.** -/
theorem append (h : ReadAs cs tokens) (h' : ReadAs ds more) (hcut : ¬ NumberAcross cs ds) :
    ReadAs (cs ++ ds) (tokens ++ more) := by
  induction h with
  | nil => exact h'
  | @number digits rest tokens hne hdigits hstop _ ih =>
    -- the number still ends where it did, unless it is the last one and goes on
    have hnext : ∀ c ∈ (rest ++ ds).head?, inNumber c = false := by
      cases rest with
      | nil =>
        rw [List.append_nil] at hcut
        exact not_inNumber_of_not_numberAcross hne hdigits hcut
      | cons c rest => exact hstop
    rw [List.append_assoc]
    exact .number hne hdigits hnext (ih fun h => hcut (h.append_left digits))
  | symbol ht _ ih => exact .symbol ht (ih fun h => hcut (h.append_left [_]))
  | ignored hout _ ih => exact .ignored hout (ih fun h => hcut (h.append_left [_]))

/-- A text that begins with a character of a number begins with a number. -/
theorem exists_number (h : ReadAs ds more) (hd : ∃ d ∈ ds.head?, inNumber d = true) :
    ∃ digits rest tokens, ds = digits ++ rest ∧ more = num (String.ofList digits) :: tokens ∧
      (∀ c ∈ digits, inNumber c = true) ∧ (∀ c ∈ rest.head?, inNumber c = false) ∧
      ReadAs rest tokens := by
  obtain ⟨d, hd, hnumber⟩ := hd
  cases h with
  | nil => exact absurd hd (by simp)
  | number _ hdigits hstop h => exact ⟨_, _, _, rfl, rfl, hdigits, hstop, h⟩
  | symbol ht _ =>
    obtain rfl := Option.some.inj hd
    exact absurd (hnumber.symm.trans (inNumber_of_ofSymbol? ht)) (by decide)
  | ignored hout _ =>
    obtain rfl := Option.some.inj hd
    exact absurd (hnumber.symm.trans (inAlphabet_eq_false_iff.mp hout).1) (by decide)

/-- **A number that goes on across the cut is one number**: the last one of the one text with
the first one of the other behind it. -/
theorem append_number (h : ReadAs cs tokens) (h' : ReadAs ds more) (hcut : NumberAcross cs ds) :
    ∃ before after x y, tokens = before ++ [num x] ∧ more = num y :: after ∧
      ReadAs (cs ++ ds) (before ++ num (x ++ y) :: after) := by
  induction h with
  | nil => exact absurd hcut.1 (by simp)
  | @number digits rest tokens hne hdigits hstop h ih =>
    rw [List.append_assoc]
    cases rest with
    | nil =>
      -- the number ends the one text, and the other one goes on with it
      obtain rfl := h.unique .nil
      obtain ⟨digits', rest', after, rfl, rfl, hdigits', hstop', h''⟩ := h'.exists_number hcut.2
      refine ⟨[], after, _, _, rfl, rfl, ?_⟩
      rw [List.nil_append, List.nil_append, ← String.ofList_append, ← List.append_assoc]
      refine .number (List.append_ne_nil_of_left_ne_nil hne digits') ?_ hstop' h''
      exact List.forall_mem_append.mpr ⟨hdigits, hdigits'⟩
    | cons c rest =>
      obtain ⟨before, after, x, y, rfl, rfl, hread⟩ :=
        ih (hcut.of_append digits (List.cons_ne_nil c rest))
      exact ⟨_ :: before, after, x, y, rfl, rfl, .number hne hdigits hstop hread⟩
  | symbol ht _ ih =>
    obtain ⟨before, after, x, y, rfl, rfl, hread⟩ := ih (hcut.tail (inNumber_of_ofSymbol? ht))
    exact ⟨_ :: before, after, x, y, rfl, rfl, .symbol ht hread⟩
  | ignored hout _ ih =>
    obtain ⟨before, after, x, y, rfl, rfl, hread⟩ :=
      ih (hcut.tail (inAlphabet_eq_false_iff.mp hout).1)
    exact ⟨before, after, x, y, rfl, rfl, .ignored hout hread⟩

end ReadAs

end PostfixCalculator.Token
