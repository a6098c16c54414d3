/-
# What the strict lexicon refuses

The lexicons differ by refusals alone.  A character is foreign if no token uses it and if it
is not white space.  A text without foreign characters is read alike under both lexicons; of
any other text the strict lexicon refuses the first foreign character, and names it with its
index (`Token.scan_strict`).  The lenient lexicon refuses nothing (`Token.exists_scan_lenient`).

A calculation meets its lexicon in the scan and nowhere else.  So under the strict lexicon it
fails at the first foreign character, whatever else is wrong with the expression, or it is the
calculation under the lenient one.
-/
import PostfixCalculator.Proofs.Calculation
import PostfixCalculator.Proofs.Token.Reading

namespace PostfixCalculator

/-! ## 1. Foreign characters -/

namespace Token

/-- A character that no token uses and that is not white space. -/
def Foreign (c : Char) : Prop := c ∉ alphabet ∧ Text.isBlank c = false

instance : DecidablePred Foreign := fun c =>
  inferInstanceAs (Decidable (c ∉ alphabet ∧ Text.isBlank c = false))

theorem foreign_iff {c : Char} :
    Foreign c ↔ inAlphabet c = false ∧ Lexicon.strict.separates c = false := by
  rw [Foreign, not_mem_alphabet_iff]
  rfl

theorem not_foreign_of_inAlphabet {c : Char} (h : inAlphabet c = true) : ¬ Foreign c :=
  fun hc => hc.1 (mem_alphabet_iff.mpr h)

/-- The first foreign character of a text, and its index. -/
structure FirstForeign (cs : List Char) (c : Char) (k : Nat) : Prop where
  found : cs[k]? = some c
  foreign : Foreign c
  least : ∀ j < k, ∀ d, cs[j]? = some d → ¬ Foreign d

namespace FirstForeign

variable {before cs : List Char} {c d : Char} {k j : Nat}

theorem mem (h : FirstForeign cs c k) : c ∈ cs := List.mem_of_getElem? h.found

theorem head (h : Foreign c) : FirstForeign (c :: cs) c 0 := ⟨rfl, h, nofun⟩

/-- It is the first one behind characters that are not foreign, too. -/
theorem append (hbefore : ∀ d ∈ before, ¬ Foreign d) (h : FirstForeign cs c k) :
    FirstForeign (before ++ cs) c (before.length + k) where
  found := by
    rw [List.getElem?_append_right (Nat.le_add_right _ _), Nat.add_sub_cancel_left]
    exact h.found
  foreign := h.foreign
  least := by
    intro j hj d hd
    rcases Nat.lt_or_ge j before.length with hlt | hge
    · rw [List.getElem?_append_left hlt] at hd
      exact hbefore d (List.mem_of_getElem? hd)
    · rw [List.getElem?_append_right hge] at hd
      exact h.least _ (Nat.sub_lt_left_of_lt_add hge hj) d hd

/-- There is but one. -/
theorem unique (h : FirstForeign cs c k) (h' : FirstForeign cs d j) : c = d ∧ k = j := by
  rcases Nat.lt_trichotomy k j with hlt | rfl | hgt
  · exact absurd h.foreign (h'.least k hlt c h.found)
  · exact ⟨Option.some.inj (h.found.symm.trans h'.found), rfl⟩
  · exact absurd h'.foreign (h.least j hgt d h'.found)

end FirstForeign

/-! ## 2. The scan -/

/-- What the strict lexicon makes of a text: it reads it as the lenient one does, or it refuses
the first foreign character. -/
inductive Verdict (position : Nat) (cs : List Char) : Prop where
  | accepted : (∀ c ∈ cs, ¬ Foreign c) →
    (∀ position', scanFrom .strict position cs = scanFrom .lenient position' cs) →
    Verdict position cs
  | refused {c : Char} {k : Nat} : FirstForeign cs c k →
    scanFrom .strict position cs = .error (.unexpectedCharacter c (position + k)) →
    Verdict position cs

/-- What is read alike in front of a text, by adding to its tokens or by skipping, leaves the
verdict on the text. -/
theorem Verdict.append {position : Nat} {before cs : List Char}
    (hbefore : ∀ d ∈ before, ¬ Foreign d) (add : List Token → List Token)
    (hread : ∀ lexicon position, scanFrom lexicon position (before ++ cs) =
      add <$> scanFrom lexicon (position + before.length) cs)
    (h : Verdict (position + before.length) cs) : Verdict position (before ++ cs) := by
  cases h with
  | accepted hclean heq =>
    refine .accepted (List.forall_mem_append.mpr ⟨hbefore, hclean⟩) ?_
    intro position'
    rw [hread, hread, heq]
  | refused hfirst herror =>
    refine .refused (hfirst.append hbefore) ?_
    rw [hread, herror, map_error, Nat.add_assoc]

/-- **What is not refused is read as the lenient lexicon reads it**, and what is refused is
the first foreign character. -/
theorem verdict (cs : List Char) : ∀ position, Verdict position cs := by
  induction cs using scan_induction with
  | nil => exact fun position => .accepted nofun fun position' => by rw [scanFrom_nil, scanFrom_nil]
  | number digits rest hne hdigits hstop ih =>
    have hlegible : ∀ d ∈ digits, ¬ Foreign d := fun d hd =>
      not_foreign_of_inAlphabet (by simp [inAlphabet, hdigits d hd])
    exact fun position => Verdict.append hlegible _
      (fun lexicon position => scanFrom_number hne hdigits hstop) (ih _)
  | symbol c t rest ht ih =>
    have hlegible : ∀ d ∈ [c], ¬ Foreign d :=
      List.forall_mem_singleton.mpr (not_foreign_of_inAlphabet (by simp [inAlphabet, ht]))
    exact fun position => Verdict.append hlegible _
      (fun lexicon position => scanFrom_symbol ht) (ih _)
  | outside c rest hout ih =>
    intro position
    cases hblank : Text.isBlank c with
    | true =>
      have hlegible : ∀ d ∈ [c], ¬ Foreign d :=
        List.forall_mem_singleton.mpr fun hc => absurd hblank (by simp [hc.2])
      refine Verdict.append hlegible id (fun lexicon position => ?_) (ih _)
      rw [id_map]
      exact scanFrom_skip (Lexicon.separates_of_isBlank hblank lexicon)
    | false =>
      have hforeign : Foreign c := foreign_iff.mpr ⟨hout, hblank⟩
      exact .refused (.head hforeign) (scanFrom_refuse hout hblank)

theorem scan_strict (text : String) :
    ((∀ c ∈ text.toList, ¬ Foreign c) ∧ scan .strict text = scan .lenient text) ∨
      ∃ c k, FirstForeign text.toList c k ∧
        scan .strict text = .error (.unexpectedCharacter c k) := by
  cases verdict text.toList 0 with
  | accepted hclean heq => exact Or.inl ⟨hclean, heq 0⟩
  | @refused c k hfirst herror =>
    rw [Nat.zero_add] at herror
    exact Or.inr ⟨c, k, hfirst, herror⟩

/-- **A text without foreign characters is read alike under all lexicons.** -/
theorem scan_eq_scan {text : String} (h : ∀ c ∈ text.toList, ¬ Foreign c)
    (lexicon lexicon' : Lexicon) : scan lexicon text = scan lexicon' text := by
  have hlenient : ∀ lexicon, scan lexicon text = scan .lenient text := by
    intro lexicon
    cases lexicon with
    | lenient => rfl
    | strict =>
      rcases scan_strict text with ⟨-, heq⟩ | ⟨c, k, hfirst, -⟩
      · exact heq
      · exact absurd hfirst.foreign (h c hfirst.mem)
  rw [hlenient lexicon, hlenient lexicon']

/-- **The lenient lexicon refuses nothing.** -/
theorem exists_scan_lenient (text : String) : ∃ tokens, scan .lenient text = .ok tokens := by
  obtain ⟨tokens, h⟩ := exists_readAs text.toList
  exact ⟨tokens, h.scanFrom_eq 0⟩

/-- The strict lexicon refuses the first foreign character, and nothing else. -/
theorem scan_strict_eq_error_iff {text : String} {c : Char} {k : Nat} :
    scan .strict text = .error (.unexpectedCharacter c k) ↔ FirstForeign text.toList c k := by
  rcases scan_strict text with ⟨hclean, heq⟩ | ⟨d, j, hfirst, herror⟩
  · obtain ⟨tokens, htokens⟩ := exists_scan_lenient text
    rw [heq, htokens]
    exact ⟨nofun, fun h => absurd h.foreign (hclean c h.mem)⟩
  · rw [herror, Except.error.injEq, CalcError.unexpectedCharacter.injEq]
    constructor
    · rintro ⟨rfl, rfl⟩
      exact hfirst
    · exact hfirst.unique

end Token

/-! ## 3. Calculations -/

/-- A calculation meets its text and its lexicon in the scan alone. -/
theorem calculate_of_scan_eq {settings : Settings} {lexicon lexicon' : Lexicon}
    {text text' : String} (h : Token.scan lexicon text = Token.scan lexicon' text') :
    calculate { settings with lexicon } text =
      calculate { settings with lexicon := lexicon' } text' := by
  rw [calculate, calculate, h]
  rfl

/-- **The strict lexicon only adds refusals.**  It refuses a text just if there is a foreign
character in it, naming the first one with its index, and reads any other text as the lenient
lexicon does, which refuses none.  So a calculation under the strict lexicon fails at the
first foreign character, before anything else can go wrong, or it is the calculation under
the lenient lexicon. -/
theorem strict_lexicon_only_refuses (text : String) :
    ((∃ c k, Token.scan .strict text = .error (.unexpectedCharacter c k)) ↔
        ∃ c ∈ text.toList, Token.Foreign c) ∧
      (∀ c k, Token.scan .strict text = .error (.unexpectedCharacter c k) ↔
        Token.FirstForeign text.toList c k) ∧
      (∃ tokens, Token.scan .lenient text = .ok tokens ∧
        ((∀ c ∈ text.toList, ¬ Token.Foreign c) → Token.scan .strict text = .ok tokens)) ∧
      ∀ settings : Settings,
        (∀ c k, Token.FirstForeign text.toList c k →
          calculate { settings with lexicon := .strict } text =
            .error (.unexpectedCharacter c k)) ∧
        ((∀ c ∈ text.toList, ¬ Token.Foreign c) →
          calculate { settings with lexicon := .strict } text =
            calculate { settings with lexicon := .lenient } text) := by
  refine ⟨?_, ?_, ?_, ?_⟩
  · constructor
    · rintro ⟨c, k, h⟩
      have hfirst := Token.scan_strict_eq_error_iff.mp h
      exact ⟨c, hfirst.mem, hfirst.foreign⟩
    · rintro ⟨c, hc, hforeign⟩
      rcases Token.scan_strict text with ⟨hclean, -⟩ | ⟨d, k, -, herror⟩
      · exact absurd hforeign (hclean c hc)
      · exact ⟨d, k, herror⟩
  · exact fun c k => Token.scan_strict_eq_error_iff
  · obtain ⟨tokens, htokens⟩ := Token.exists_scan_lenient text
    exact ⟨tokens, htokens, fun h => (Token.scan_eq_scan h _ _).trans htokens⟩
  · intro settings
    refine ⟨?_, fun h => calculate_of_scan_eq (Token.scan_eq_scan h _ _)⟩
    intro c k h
    rw [calculate, Token.scan_strict_eq_error_iff.mpr h, error_bind]

/-- The letter is refused, and neither the open parenthesis nor the division by zero comes to
light. -/
theorem strict_lexicon_only_refuses_a_letter :
    Token.FirstForeign "(6 / 0x".toList 'x' 6 ∧
      calculate { arithmetic := .exact, lexicon := .strict } "(6 / 0x" =
        .error (.unexpectedCharacter 'x' 6) := by
  have hclean : "(6 / 0".toList.all (fun d => decide (¬ Token.Foreign d)) = true := by
    decide +kernel
  have hfirst : Token.FirstForeign "(6 / 0x".toList 'x' 6 :=
    .append (fun d hd => of_decide_eq_true (List.all_eq_true.mp hclean d hd))
      (.head (by decide +kernel))
  exact ⟨hfirst,
    ((strict_lexicon_only_refuses "(6 / 0x").2.2.2 { arithmetic := .exact }).1 'x' 6 hfirst⟩

end PostfixCalculator
