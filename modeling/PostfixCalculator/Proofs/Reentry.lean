/-
# A displayed result entered again

In exact arithmetic what is displayed is the text of a count of units, with a minus sign in
front if the number is negative and some units are left of it (`Exact.fixed_cases`).  The text
of a count is one number, read as the count over the scale, and displayed as it was, for
nothing has to be rounded any more (`calculate_fixedText`).  There is no sign in the grammar, so
the minus sign is an operator that lacks its left operand.  Under the tolerant policy it
subtracts the number from zero, and the difference is displayed with the sign again
(`calculate_neg_fixedText`).

So a displayed result calculates to itself (`displayed_result_stands`).
-/
import PostfixCalculator.Proofs.Number.FixedPoint
import PostfixCalculator.Proofs.Omission

namespace PostfixCalculator

/-! ## 1. What is displayed -/

/-- **The text of a rational number** is the text of a count, with or without a sign. -/
theorem Exact.fixed_cases {places : Nat} (h : places < UInt32.size) (x : ℚ) :
    ∃ n, fixed places x = fixedText false (powerOfTen places) places n ∨
      n ≠ 0 ∧ fixed places x = "-" ++ fixedText false (powerOfTen places) places n := by
  refine ⟨units places x, ?_⟩
  rw [fixed, scale_of_lt h]
  by_cases hsign : x.num < 0 ∧ units places x ≠ 0
  · exact Or.inr ⟨hsign.2, by rw [decide_eq_true hsign.1, fixedText_true hsign.2]⟩
  · left
    rcases not_and_or.mp hsign with hpositive | hnone
    · rw [decide_eq_false hpositive]
    · rw [not_not.mp hnone, fixedText_zero]

/-- The text of a count is written as a number is. -/
theorem writable_fixedText (scale places n : Nat) :
    (Token.num (fixedText false scale places n)).Writable := by
  have hchars : ∀ c ∈ (fixedText false scale places n).toList, Token.inNumber c = true := by
    have hdigit : ∀ c : Char, c.isDigit = true → Token.inNumber c = true := by
      intro c hc
      rw [Token.inNumber, hc, Bool.true_or]
    rw [toList_fixedText]
    refine List.forall_mem_append.mpr ⟨fun c hc => hdigit c ?_, ?_⟩
    · exact Nat.isDigit_of_mem_toDigits (by decide) (by decide) hc
    · rcases fractionText_eq places (n % scale) with ⟨-, htext, -⟩ | htext
      · rw [htext]
        exact List.forall_mem_nil _
      · rw [htext]
        exact List.forall_mem_cons.mpr
          ⟨rfl, fun c hc => hdigit c (isDigit_of_mem_fractionDigits c hc)⟩
  refine ⟨?_, hchars⟩
  intro hempty
  have hnil := toList_fixedText scale places n
  rw [hempty] at hnil
  exact Nat.toDigits_ne_nil (List.append_eq_nil_iff.mp hnil.symm).1

/-! ## 2. How it is read -/

namespace Token

variable {lexicon : Lexicon} {text : String}

/-- On its own a number is one token, wherever it stands. -/
theorem scanFrom_num (h : (num text).Writable) (position : Nat) :
    scanFrom lexicon position text.toList = .ok [num text] := by
  have hne : text.toList ≠ [] := fun hnil => h.1 (String.toList_eq_nil_iff.mp hnil)
  have hscan : scanFrom lexicon position (text.toList ++ []) =
      (num (String.ofList text.toList) :: ·) <$>
        scanFrom lexicon (position + text.toList.length) [] :=
    scanFrom_number hne h.2 (by simp)
  rwa [List.append_nil, scanFrom_nil, String.ofList_toList] at hscan

/-- A minus sign in front of it is an operator. -/
theorem scan_signed (h : (num text).Writable) :
    scan lexicon ("-" ++ text) = .ok [op .minus, num text] := by
  have hchars : ("-" ++ text).toList = '-' :: text.toList := String.toList_append
  rw [scan, hchars, scanFrom_symbol rfl, scanFrom_num h]
  rfl

theorem spaced_pair (s t : Token) : spaced [s, t] = s.text ++ " " ++ t.text := by
  rw [spaced, List.map_cons, List.map_cons, String.intercalate_cons_cons]
  rfl

end Token

/-! ## 3. Calculations -/

section

variable {settings : Settings} (harithmetic : settings.arithmetic = .exact)

include harithmetic

/-- A calculation whose stages succeed in exact arithmetic. -/
theorem calculate_of_exact {text : String} {tokens p : List Token} {x : ℚ}
    (hscan : Token.scan settings.lexicon text = .ok tokens)
    (hsort : Postfix.ofInfix tokens = .ok p)
    (hx : Postfix.evaluate settings.policy p = .ok x) :
    calculate settings text =
      .ok (Answer.traced tokens p (Answer.ofNumber settings.decimals x)) := by
  have hanswer : answer settings p = .ok (Answer.ofNumber settings.decimals x) := by
    rw [answer, harithmetic]
    exact (answerIn_eq ℚ settings p).trans (by rw [hx, map_ok])
  rw [calculate_of_ok hscan hsort, hanswer, map_ok]

/-- What is calculated in exact arithmetic is displayed as the text of a rational number. -/
theorem exists_fixed_of_calculate {expression : String} {r : Result}
    (h : calculate settings expression = .ok r) :
    ∃ x, r.display = "=" ++ Exact.fixed settings.decimals x := by
  obtain ⟨p, hp⟩ := ofExpression_of_calculate h
  have hanswer := toAnswer_calculate hp
  rw [h, map_ok, answer, harithmetic] at hanswer
  obtain ⟨x, -, hx⟩ := map_eq_ok_iff.mp ((answerIn_eq ℚ settings p).symm.trans hanswer.symm)
  exact ⟨x, (congrArg Answer.display hx).symm⟩

variable (hdecimals : settings.decimals < UInt32.size)

include hdecimals

/-- **The text of a count is calculated as what it counts**, and displayed as it is. -/
theorem calculate_fixedText (n : Nat) {text : String}
    (htext : text = fixedText false (powerOfTen settings.decimals) settings.decimals n) :
    ∃ r, calculate settings text = .ok r ∧ r.display = "=" ++ text := by
  have hwritable : (Token.num text).Writable := htext ▸ writable_fixedText _ _ n
  have hvalue := Exact.ofText_fixedText hdecimals n
  rw [← htext] at hvalue
  have hx : Postfix.evaluate settings.policy [.num text] =
      (.ok (mkRat n (powerOfTen settings.decimals)) : Except CalcError ℚ) :=
    (Postfix.evaluate_postorder _ (.literal text)).trans hvalue
  refine ⟨_, calculate_of_exact harithmetic (Token.scanFrom_num hwritable 0) rfl hx, ?_⟩
  exact congrArg ("=" ++ ·) ((Exact.fixed_mkRat hdecimals n).trans htext.symm)

variable (hpolicy : settings.policy = .tolerant)

include hpolicy

/-- **With a minus sign in front it is subtracted from zero**, and displayed with the sign. -/
theorem calculate_neg_fixedText {n : Nat} (hn : n ≠ 0) {text : String}
    (htext : text = fixedText false (powerOfTen settings.decimals) settings.decimals n) :
    ∃ r, calculate settings ("-" ++ text) = .ok r ∧ r.display = "=" ++ ("-" ++ text) ∧
      r.trace = ⟨"- " ++ text, text ++ " -"⟩ := by
  have hwritable : (Token.num text).Writable := htext ▸ writable_fixedText _ _ n
  have hvalue := Exact.ofText_fixedText hdecimals n
  rw [← htext] at hvalue
  have hx : Postfix.evaluate settings.policy [.num text, .op .minus] =
      (.ok (-mkRat n (powerOfTen settings.decimals)) : Except CalcError ℚ) := by
    have hdifference : Postfix.evaluate .tolerant [.num text, .op .minus] =
        ((Expr.binary .minus (.literal "0") (.literal text)).eval : Except CalcError ℚ) :=
      Postfix.evaluate_postorder_op rfl (.literal text) .minus
    rw [hpolicy, hdifference, Expr.eval, Expr.eval, Expr.eval, hvalue, ← zero_sub]
    rfl
  have hsort : Postfix.ofInfix [.op .minus, .num text] = .ok [.num text, .op .minus] := rfl
  refine ⟨_, calculate_of_exact harithmetic (Token.scan_signed hwritable) hsort hx, ?_, ?_⟩
  · exact congrArg ("=" ++ ·) ((Exact.fixed_neg_mkRat hdecimals hn).trans (by rw [htext]))
  · have hfront : Token.spaced [.op .minus, .num text] = "- " ++ text := Token.spaced_pair _ _
    have hbehind : Token.spaced [.num text, .op .minus] = text ++ " -" :=
      (Token.spaced_pair _ _).trans String.append_assoc
    rw [Answer.traced, hfront, hbehind]

/-- **A displayed result calculates to itself**, in exact arithmetic under the tolerant policy.
If it is negative, its sign is read as an operator, and subtracts the magnitude from zero. -/
theorem displayed_result_stands {expression d : String} {r : Result}
    (h : calculate settings expression = .ok r) (hd : r.display = "=" ++ d) :
    ∃ r', calculate settings d = .ok r' ∧ r'.display = "=" ++ d ∧
      ∀ magnitude, d = "-" ++ magnitude → r'.trace = ⟨"- " ++ magnitude, magnitude ++ " -"⟩ := by
  obtain ⟨x, hx⟩ := exists_fixed_of_calculate harithmetic h
  have htext : d = Exact.fixed settings.decimals x :=
    (String.append_right_inj "=").mp (hd.symm.trans hx)
  obtain ⟨n, hpositive | ⟨hn, hnegative⟩⟩ := Exact.fixed_cases hdecimals x
  · obtain ⟨r', hr', hdisplay⟩ :=
      calculate_fixedText harithmetic hdecimals n (htext.trans hpositive)
    refine ⟨r', hr', hdisplay, ?_⟩
    rintro magnitude rfl
    -- there is no sign in the text of a count
    have hminus : '-' ∈ ("-" ++ magnitude).toList := by simp
    rw [htext, hpositive] at hminus
    exact absurd ((writable_fixedText _ _ n).2 '-' hminus) (by decide)
  · rw [htext, hnegative]
    obtain ⟨r', hr', hdisplay, htrace⟩ :=
      calculate_neg_fixedText harithmetic hdecimals hpolicy hn rfl
    refine ⟨r', hr', hdisplay, ?_⟩
    intro magnitude hmagnitude
    rw [htrace, (String.append_right_inj "-").mp hmagnitude]

end

/-- `2/3-1` is displayed as `-0.33`, which is calculated to `-0.33`. -/
theorem displayed_result_stands_of_third :
    (calculate { arithmetic := .exact } "2/3-1").toOption.map (·.display) = some "=-0.33" ∧
      ∃ r, calculate { arithmetic := .exact } "-0.33" = .ok r ∧ r.display = "=-0.33" ∧
        r.trace = ⟨"- 0.33", "0.33 -"⟩ := by
  have hshown : (calculate { arithmetic := .exact } "2/3-1").toOption.map (·.display) =
      some "=-0.33" := by decide +kernel
  refine ⟨hshown, ?_⟩
  obtain ⟨r, hr, hdisplay⟩ := Option.map_eq_some_iff.mp hshown
  have harithmetic : ({ arithmetic := .exact } : Settings).arithmetic = .exact := rfl
  have hnegative : r.display = "=" ++ "-0.33" := hdisplay
  obtain ⟨r', hr', hstands, htrace⟩ := displayed_result_stands harithmetic (by decide) rfl
    (eq_ok_of_toOption hr) hnegative
  exact ⟨r', hr', hstands, htrace "0.33" rfl⟩

end PostfixCalculator
