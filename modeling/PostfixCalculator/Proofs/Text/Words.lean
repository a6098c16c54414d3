/-
# The words of a text

Words are what white space leaves of a text.  A blank cuts a text in two, each of which has
its words (`words_append_blank`), and a text without a blank is one word.  So a list of words,
written with one space between neighbours, is read back (`words_intercalate`), and so it is
with any white space between them, before them and behind them (`MadeOf.words_eq`).  Every text
is written in this way (`madeOf_words`), so its words are all that there is to it but blanks.
-/
import PostfixCalculator.Text.Blank

namespace PostfixCalculator.Text

/-- It has characters, and none of them is white space. -/
def IsWord (w : List Char) : Prop := w ≠ [] ∧ ∀ c ∈ w, isBlank c = false

theorem words_nil : words [] = [] := rfl

/-- **A blank separates words.** -/
theorem words_append_blank {c : Char} (hc : isBlank c = true) (cs ds : List Char) :
    words (cs ++ c :: ds) = words cs ++ words ds := by
  rw [words, List.splitOnP_append_cons cs ds hc, List.filter_append]
  rfl

theorem words_of_isWord {w : List Char} (h : IsWord w) : words w = [w] := by
  obtain ⟨hne, hblank⟩ := h
  rw [words, List.splitOnP_eq_singleton hblank]
  simp [hne]

/-- **Words that are spaced by single blanks are read back.** -/
theorem words_intercalate {ws : List (List Char)} (h : ∀ w ∈ ws, IsWord w) :
    words ([' '].intercalate ws) = ws := by
  induction ws with
  | nil => exact words_nil
  | cons w ws ih =>
    have hw : words w = [w] := words_of_isWord (h w List.mem_cons_self)
    have hrest : words ([' '].intercalate ws) = ws := ih fun v hv => h v (List.mem_cons_of_mem w hv)
    cases ws with
    | nil => simpa using hw
    | cons v ws =>
      rw [List.intercalate_cons_cons, List.append_assoc, List.singleton_append,
        words_append_blank rfl, hw, hrest]
      rfl

/-- The text is made of these words in this order, with white space between neighbours, and any
more of it around them. -/
inductive MadeOf : List Char → List (List Char) → Prop where
  | nil : MadeOf [] []
  | blank {c : Char} {cs : List Char} {ws : List (List Char)} :
    isBlank c = true → MadeOf cs ws → MadeOf (c :: cs) ws
  | word {w cs : List Char} {ws : List (List Char)} :
    IsWord w → (∀ c ∈ cs.head?, isBlank c = true) → MadeOf cs ws → MadeOf (w ++ cs) (w :: ws)

/-- **What a text is made of are its words.** -/
theorem MadeOf.words_eq {cs : List Char} {ws : List (List Char)} (h : MadeOf cs ws) :
    words cs = ws := by
  have hblank : ∀ {c : Char} (cs : List Char), isBlank c = true → words (c :: cs) = words cs :=
    fun cs hc => words_append_blank hc [] cs
  induction h with
  | nil => exact words_nil
  | @blank c cs ws hc _ ih => rw [hblank cs hc, ih]
  | @word w cs ws hw hnext _ ih =>
    cases cs with
    | nil => rw [List.append_nil, words_of_isWord hw, ← ih, words_nil]
    | cons c cs =>
      have hc : isBlank c = true := hnext c rfl
      rw [words_append_blank hc, words_of_isWord hw, ← ih, hblank cs hc]
      rfl

/-- Every text is made of words. -/
theorem exists_madeOf (cs : List Char) : ∃ ws, MadeOf cs ws := by
  induction cs with
  | nil => exact ⟨[], .nil⟩
  | cons c cs ih =>
    obtain ⟨ws, h⟩ := ih
    cases hc : isBlank c with
    | true => exact ⟨ws, .blank hc h⟩
    | false =>
      -- the character begins a word of its own, or goes on with the word that begins behind it
      have hletter : IsWord [c] := ⟨List.cons_ne_nil c [], List.forall_mem_singleton.mpr hc⟩
      cases h with
      | nil => exact ⟨[[c]], .word hletter nofun .nil⟩
      | @blank d cs _ hd h =>
        exact ⟨[c] :: ws, .word hletter (fun _ he => Option.some.inj he ▸ hd) (.blank hd h)⟩
      | @word w rest more hw hnext h =>
        exact ⟨(c :: w) :: more,
          .word ⟨List.cons_ne_nil c w, List.forall_mem_cons.mpr ⟨hc, hw.2⟩⟩ hnext h⟩

/-- **Every text is made of its words.** -/
theorem madeOf_words (cs : List Char) : MadeOf cs (words cs) := by
  obtain ⟨ws, h⟩ := exists_madeOf cs
  rwa [h.words_eq]

end PostfixCalculator.Text
