/-
# Texts put together

The scan under the lenient lexicon goes from texts to tokens as concatenation does: the tokens
of two texts in a row are those of the one and then those of the other.  There is one
exception.  Where the one text ends and the other begins with a digit or a point, two numbers
become one.

No character of the alphabet is lost, and no other one is kept
(`ReadAs.flatMap_text`).  Characters that are not kept have no tokens, so that they can be put
in and taken out wherever no number is cut by them or joined (`ReadAs.insert`).
-/
import PostfixCalculator.Proofs.Postfix.Rereading
import PostfixCalculator.Proofs.Refusal
import PostfixCalculator.Proofs.Token.Reading
import Mathlib.Logic.Relation

namespace PostfixCalculator.Token

/-! ## 1. Characters kept and characters ignored -/

/-- **The tokens keep the characters of the alphabet**, and no others. -/
theorem ReadAs.flatMap_text {cs : List Char} {tokens : List Token} (h : ReadAs cs tokens) :
    tokens.flatMap (·.text.toList) = cs.filter inAlphabet := by
  induction h with
  | nil => rfl
  | @number digits rest tokens _ hdigits _ _ ih =>
    have hkept : digits.filter inAlphabet = digits :=
      List.filter_eq_self.mpr fun c hc => inAlphabet_of_inNumber (hdigits c hc)
    rw [List.flatMap_cons, ih, List.filter_append, hkept, text, String.toList_ofList]
  | @symbol c t rest tokens ht _ ih =>
    have htext : t.text.toList = [c] := by
      rw [text_of_ofSymbol? ht, Char.toString_eq_singleton, String.toList_singleton]
    rw [List.flatMap_cons, ih, htext, List.filter_cons_of_pos (inAlphabet_of_ofSymbol? ht)]
    rfl
  | ignored hout _ ih => rw [ih, List.filter_cons_of_neg (by simp [hout])]

/-- **What is ignored can be put in** wherever no number goes on. -/
theorem ReadAs.insert {left right pad : List Char} {tokens more : List Token}
    (h : ReadAs left tokens) (h' : ReadAs right more)
    (hpad : ∀ c ∈ pad, inAlphabet c = false) (hcut : ¬ NumberAcross left right) :
    ReadAs (left ++ pad ++ right) (tokens ++ more) := by
  have hignored : ∀ c ∈ pad, inNumber c = false :=
    fun c hc => (inAlphabet_eq_false_iff.mp (hpad c hc)).1
  have hinner : ¬ NumberAcross left pad := by
    rintro ⟨-, d, hd, hnumber⟩
    rw [hignored d (List.mem_of_mem_head? hd)] at hnumber
    exact absurd hnumber Bool.false_ne_true
  have houter : ¬ NumberAcross (left ++ pad) right := by
    intro hacross
    cases pad with
    | nil => exact hcut (by rwa [List.append_nil] at hacross)
    | cons c pad =>
      have hne : c :: pad ≠ [] := List.cons_ne_nil c pad
      exact not_numberAcross (List.getLast?_eq_some_getLast hne)
        (hignored _ (List.getLast_mem hne)) (hacross.of_append left hne)
  -- the padding reads as nothing, and each of the two cuts beside it has one of its characters
  have hfront := h.append (readAs_nil_of_ignored hpad) hinner
  rw [List.append_nil] at hfront
  exact hfront.append h' houter

/-- The second text is the first one with characters outside the alphabet put in at one place,
which has no characters of numbers on both its sides. -/
def Insertion (s s' : String) : Prop :=
  ∃ left pad right : String, s = left ++ right ∧ s' = left ++ pad ++ right ∧
    (∀ c ∈ pad.toList, c ∉ alphabet) ∧ ¬ NumberAcross left.toList right.toList

/-! ## 2. The scan -/

theorem scan_lenient_eq_ok_iff {text : String} {tokens : List Token} :
    scan .lenient text = .ok tokens ↔ ReadAs text.toList tokens := by
  refine ⟨fun h => ?_, fun h => h.scanFrom_eq 0⟩
  obtain ⟨tokens', h'⟩ := exists_readAs text.toList
  rwa [Except.ok.inj (h.symm.trans (h'.scanFrom_eq 0))]

theorem scan_eq_of_insertion {s s' : String} (h : Insertion s s') :
    scan .lenient s = scan .lenient s' := by
  obtain ⟨left, pad, right, rfl, rfl, hpad, hcut⟩ := h
  obtain ⟨tokens, hleft⟩ := exists_readAs left.toList
  obtain ⟨more, hright⟩ := exists_readAs right.toList
  have hshort : scan .lenient (left ++ right) = .ok (tokens ++ more) := by
    rw [scan_lenient_eq_ok_iff, String.toList_append]
    exact hleft.append hright hcut
  have hlong : scan .lenient (left ++ pad ++ right) = .ok (tokens ++ more) := by
    rw [scan_lenient_eq_ok_iff, String.toList_append, String.toList_append]
    exact hleft.insert hright (fun c hc => not_mem_alphabet_iff.mp (hpad c hc)) hcut
  rw [hshort, hlong]

/-- **Only numbers run into one another.**  Of two texts in a row the tokens are those of the
one and those of the other, unless the cut has characters of numbers on both its sides, where
the last number of the one and the first one of the other are read as one.  All characters of
the alphabet are found in the tokens, in their order, and no others, and the numbers have
characters of numbers only, at least one.  So the tokens stay when ignored characters are put
in or taken out, at any places that have no characters of numbers on both sides. -/
theorem scanning_joins_numbers_only :
    (∀ s t : String,
      (NumberAcross s.toList t.toList → ∃ before after x y,
        scan .lenient s = .ok (before ++ [num x]) ∧ scan .lenient t = .ok (num y :: after) ∧
          scan .lenient (s ++ t) = .ok (before ++ num (x ++ y) :: after)) ∧
      (¬ NumberAcross s.toList t.toList → ∃ tokens more,
        scan .lenient s = .ok tokens ∧ scan .lenient t = .ok more ∧
          scan .lenient (s ++ t) = .ok (tokens ++ more))) ∧
    (∀ s : String, ∃ tokens, scan .lenient s = .ok tokens ∧
      tokens.flatMap (·.text.toList) = s.toList.filter (· ∈ alphabet) ∧
      ∀ t ∈ tokens, t.Writable) ∧
    ∀ s s' : String, Relation.EqvGen Insertion s s' → scan .lenient s = scan .lenient s' := by
  refine ⟨fun s t => ?_, fun s => ?_, fun s s' h => ?_⟩
  · obtain ⟨tokens, hs⟩ := exists_readAs s.toList
    obtain ⟨more, ht⟩ := exists_readAs t.toList
    simp only [scan_lenient_eq_ok_iff, String.toList_append]
    refine ⟨fun hcut => ?_, fun hcut => ⟨tokens, more, hs, ht, hs.append ht hcut⟩⟩
    obtain ⟨before, after, x, y, rfl, rfl, hread⟩ := hs.append_number ht hcut
    exact ⟨before, after, x, y, hs, ht, hread⟩
  · obtain ⟨tokens, hs⟩ := exists_readAs s.toList
    have hscan := scan_lenient_eq_ok_iff.mpr hs
    refine ⟨tokens, hscan, ?_, writable_of_mem_scan hscan⟩
    rw [hs.flatMap_text]
    exact List.filter_congr fun c _ => by simp [mem_alphabet_iff]
  · induction h with
    | rel s s' h => exact scan_eq_of_insertion h
    | refl s => rfl
    | symm s s' _ ih => exact ih.symm
    | trans s s' s'' _ _ ih ih' => exact ih.trans ih'

/-- A cut through `10.5` and a cut in front of it, the number itself, and a blank and a letter
put in behind the parentheses of `(1)2`. -/
theorem scanning_joins_ten_and_a_half :
    (NumberAcross "2*1".toList "0.5)".toList ∧ ∃ before after x y,
      scan .lenient "2*1" = .ok (before ++ [num x]) ∧
        scan .lenient "0.5)" = .ok (num y :: after) ∧
          scan .lenient ("2*1" ++ "0.5)") = .ok (before ++ num (x ++ y) :: after)) ∧
    (¬ NumberAcross "2*".toList "10.5)".toList ∧ ∃ tokens more,
      scan .lenient "2*" = .ok tokens ∧ scan .lenient "10.5)" = .ok more ∧
        scan .lenient ("2*" ++ "10.5)") = .ok (tokens ++ more)) ∧
    (scan .lenient "10.5" = .ok [num "10.5"] ∧ (num "10.5").Writable) ∧
    Relation.EqvGen Insertion "(1)2" "( 1)x2" ∧
      scan .lenient "(1)2" = scan .lenient "( 1)x2" := by
  obtain ⟨hcut, htokens, hignored⟩ := scanning_joins_numbers_only
  have hthrough : NumberAcross "2*1".toList "0.5)".toList :=
    ⟨⟨'1', by decide, rfl⟩, '0', by decide, rfl⟩
  have hfront : ¬ NumberAcross "2*".toList "10.5)".toList :=
    not_numberAcross (c := '*') (by decide) (by decide)
  have hblank : Insertion "(1)2" "( 1)2" :=
    ⟨"(", " ", "1)2", by decide, by decide, List.forall_mem_singleton.mpr (by decide),
      not_numberAcross (c := '(') (by decide) (by decide)⟩
  have hletter : Insertion "( 1)2" "( 1)x2" :=
    ⟨"( 1)", "x", "2", by decide, by decide, List.forall_mem_singleton.mpr (by decide),
      not_numberAcross (c := ')') (by decide) (by decide)⟩
  have hpadded : Relation.EqvGen Insertion "(1)2" "( 1)x2" :=
    .trans _ _ _ (.rel _ _ hblank) (.rel _ _ hletter)
  have hscan : scan .lenient "10.5" = .ok [num "10.5"] := eq_ok_of_toOption (by decide +kernel)
  obtain ⟨tokens, hread, -, hwritable⟩ := htokens "10.5"
  obtain rfl : tokens = [num "10.5"] := Except.ok.inj (hread.symm.trans hscan)
  exact ⟨⟨hthrough, (hcut _ _).1 hthrough⟩, ⟨hfront, (hcut _ _).2 hfront⟩,
    ⟨hscan, hwritable _ List.mem_cons_self⟩, hpadded, hignored _ _ hpadded⟩

end PostfixCalculator.Token
