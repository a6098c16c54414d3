/-
# How many values remain

A postfix list without parentheses, whose numbers are numerals, fails in binary64 for one
reason only: operands and operators do not add up.  The error then tells how many values were
at hand, and that number can be read off the list without evaluating it.

* No value at all is at hand just if the list is empty or begins with an operator.
* Under the tolerant policy the height of the stack goes up by one at a number, and down by one
  at an operator, but never below one.  Such a walk ends at the largest of the heights that it
  would come to if it started at the beginning, or anew at height one behind an operator
  (`Postfix.isGreatest_height`).
* Under the strict policy the walk is stopped where it would fall below one, at height one, and
  otherwise it ends at the numbers less the operators (`Postfix.count_eq_error_iff`).

Numbers less operators is `Token.surplus`; behind an operator, `Token.CutBehindOperator`.
-/
import PostfixCalculator.Proofs.Postfix.Account
import PostfixCalculator.Proofs.Trailing
import Mathlib.Order.Bounds.Basic

namespace PostfixCalculator

namespace Token

/-! ## 1. Numbers less operators -/

/-- The number of numbers less the number of operators. -/
def surplus (tokens : List Token) : ℤ :=
  (tokens.countP isNumber : ℤ) - (tokens.countP isOperator : ℤ)

@[simp] theorem surplus_nil : surplus [] = 0 := rfl

@[simp] theorem surplus_num (text : String) (rest : List Token) :
    surplus (num text :: rest) = 1 + surplus rest := by
  simp only [surplus, countP_cons, isNumber, isOperator, Bool.toNat_true, Bool.toNat_false]
  omega

@[simp] theorem surplus_op (o : Operator) (rest : List Token) :
    surplus (op o :: rest) = surplus rest - 1 := by
  simp only [surplus, countP_cons, isNumber, isOperator, Bool.toNat_true, Bool.toNat_false]
  omega

/-- Without parentheses a list that begins with no operator begins with a number. -/
theorem eq_num_cons_of_start {tokens : List Token} (hparen : ∀ t ∈ tokens, t.isParen = false)
    (hstart : ¬ (tokens = [] ∨ ∃ o rest, tokens = op o :: rest)) :
    ∃ text rest, tokens = num text :: rest := by
  match tokens with
  | num text :: rest => exact ⟨text, rest, rfl⟩
  | [] => exact absurd (Or.inl rfl) hstart
  | op o :: rest => exact absurd (Or.inr ⟨o, rest, rfl⟩) hstart
  | lparen :: rest => exact absurd (hparen _ List.mem_cons_self) (by decide)
  | rparen :: rest => exact absurd (hparen _ List.mem_cons_self) (by decide)

/-- The two parts of a list that is cut right behind an operator. -/
def CutBehindOperator (tokens before behind : List Token) : Prop :=
  tokens = before ++ behind ∧ ∃ front o, before = front ++ [op o]

theorem not_cutBehindOperator_nil {before behind : List Token} :
    ¬ CutBehindOperator [] before behind := by
  rintro ⟨hcut, front, o, rfl⟩
  simp at hcut

/-- A list is cut behind its first token, or further back. -/
theorem cutBehindOperator_cons_iff {t : Token} {rest before behind : List Token} :
    CutBehindOperator (t :: rest) before behind ↔
      (∃ o, t = op o ∧ before = [t] ∧ behind = rest) ∨
        ∃ before', before = t :: before' ∧ CutBehindOperator rest before' behind := by
  constructor
  · rintro ⟨hcut, front, o, rfl⟩
    cases front with
    | nil =>
      obtain ⟨rfl, rfl⟩ := List.cons.inj hcut
      exact Or.inl ⟨o, rfl, rfl, rfl⟩
    | cons s front =>
      obtain ⟨rfl, rfl⟩ := List.cons.inj hcut
      exact Or.inr ⟨front ++ [op o], rfl, rfl, front, o, rfl⟩
  · rintro (⟨o, rfl, rfl, rfl⟩ | ⟨before', rfl, rfl, front, o, rfl⟩)
    · exact ⟨rfl, [], o, rfl⟩
    · exact ⟨rfl, t :: front, o, rfl⟩

end Token

open Token (surplus CutBehindOperator cutBehindOperator_cons_iff not_cutBehindOperator_nil)

namespace Postfix

variable {p : List Token}

/-! ## 2. The tolerant walk -/

/-- The height of the stack after one more token, under the tolerant policy. -/
def heightStep (height : Nat) : Token → Nat
  | .num _ => height + 1
  | .op _ => max (height - 1) 1
  | _ => height

theorem heightStep_pos {height : Nat} (h : 0 < height) (t : Token) : 0 < heightStep height t := by
  cases t with
  | num text => exact Nat.succ_pos height
  | op o => exact Nat.lt_of_lt_of_le Nat.one_pos (Nat.le_max_right _ 1)
  | lparen => exact h
  | rparen => exact h

/-- The heights that the walk comes to from this one if nothing holds it up, and from height
one if it starts anew behind an operator. -/
def heights (height : Nat) (p : List Token) : Set ℤ :=
  {h | h = height + surplus p ∨
    ∃ before behind, CutBehindOperator p before behind ∧ h = 1 + surplus behind}

theorem heights_nil (height : Nat) : heights height [] = {(height : ℤ)} := by
  ext h
  simp [heights, not_cutBehindOperator_nil]

theorem heights_num (height : Nat) (text : String) (rest : List Token) :
    heights height (.num text :: rest) = heights (height + 1) rest := by
  ext h
  simp only [heights, cutBehindOperator_cons_iff, Set.mem_ofPred_eq, Token.surplus_num]
  constructor
  · rintro (rfl | ⟨before, behind, ⟨o, ho, -⟩ | ⟨before', -, hcut⟩, rfl⟩)
    · exact Or.inl (by omega)
    · exact absurd ho nofun
    · exact Or.inr ⟨before', behind, hcut, rfl⟩
  · rintro (rfl | ⟨before, behind, hcut, rfl⟩)
    · exact Or.inl (by omega)
    · exact Or.inr ⟨_, behind, Or.inr ⟨before, rfl, hcut⟩, rfl⟩

/-- Behind an operator the walk goes on, or starts anew. -/
theorem mem_heights_op_iff {height : Nat} {o : Operator} {rest : List Token} {h : ℤ} :
    h ∈ heights height (.op o :: rest) ↔
      h = height - 1 + surplus rest ∨ h ∈ heights 1 rest := by
  simp only [heights, cutBehindOperator_cons_iff, Set.mem_ofPred_eq, Token.surplus_op]
  constructor
  · rintro (rfl | ⟨before, behind, ⟨o', ho, rfl, rfl⟩ | ⟨before', -, hcut⟩, rfl⟩)
    · exact Or.inl (by omega)
    · exact Or.inr (Or.inl (by omega))
    · exact Or.inr (Or.inr ⟨before', behind, hcut, rfl⟩)
  · rintro (rfl | rfl | ⟨before, behind, hcut, rfl⟩)
    · exact Or.inl (by omega)
    · exact Or.inr ⟨_, rest, Or.inl ⟨o, rfl, rfl, rfl⟩, by omega⟩
    · exact Or.inr ⟨_, behind, Or.inr ⟨before, rfl, hcut⟩, rfl⟩

/-- **The walk ends at the largest of these heights.** -/
theorem isGreatest_height (hparen : ∀ t ∈ p, t.isParen = false) :
    ∀ height : Nat, IsGreatest (heights height p) (p.foldl heightStep height : ℕ) := by
  induction p with
  | nil =>
    intro height
    rw [heights_nil]
    exact isGreatest_singleton
  | cons t rest ih =>
    intro height
    have hrest := ih (fun s hs => hparen s (List.mem_cons_of_mem t hs)) (heightStep height t)
    rw [List.foldl_cons]
    cases t with
    | num text =>
      rw [heights_num]
      exact hrest
    | op o =>
      obtain ⟨hmem, hupper⟩ := hrest
      -- of the two heights that it can go on from the walk takes the larger one
      have hchoice : (heightStep height (.op o) : ℤ) = height - 1 ∨
          (heightStep height (.op o) : ℤ) = 1 := by
        simp only [heightStep]
        omega
      have hlarger : (height : ℤ) - 1 ≤ heightStep height (.op o) ∧
          (1 : ℤ) ≤ heightStep height (.op o) := by
        simp only [heightStep]
        omega
      have hstraight := hupper (Or.inl rfl)
      refine ⟨mem_heights_op_iff.mpr ?_, ?_⟩
      · rcases hmem with hmem | hmem
        · rcases hchoice with hgoes | hanew
          · exact Or.inl (by omega)
          · exact Or.inr (Or.inl (by omega))
        · exact Or.inr (Or.inr hmem)
      · intro h hh
        rcases mem_heights_op_iff.mp hh with rfl | rfl | hbehind
        · omega
        · omega
        · exact hupper (Or.inr hbehind)
    | lparen => exact absurd (hparen _ List.mem_cons_self) (by decide)
    | rparen => exact absurd (hparen _ List.mem_cons_self) (by decide)

/-- One step: in binary64 the stack has the height of the walk. -/
theorem exists_reduceStep {stack : List Float} {t : Token}
    (hstack : t.isOperator = true → 0 < stack.length) (hparen : t.isParen = false)
    (hnumeral : ∀ text, t = .num text → IsNumeral text) :
    ∃ next : List Float, reduceStep .tolerant stack t = .ok next ∧
      next.length = heightStep stack.length t := by
  cases t with
  | num text =>
    have hread := Numeral.ofText?_eq (hnumeral text rfl)
    exact ⟨_, by rw [reduceStep, Number.ofText, hread, map_ok], rfl⟩
  | op o =>
    cases stack with
    | nil => exact absurd (hstack rfl) (Nat.lt_irrefl 0)
    | cons right below =>
      cases below with
      | nil => exact ⟨_, rfl, rfl⟩
      | cons left rest => exact ⟨_, rfl, by simp [heightStep]⟩
  | lparen => exact absurd hparen (by decide)
  | rparen => exact absurd hparen (by decide)

/-- **A run**: it succeeds, and ends at the height of the walk. -/
theorem exists_foldlM_reduceStep (hparen : ∀ t ∈ p, t.isParen = false)
    (hnumerals : Token.AllNumerals p) : ∀ {stack : List Float}, 0 < stack.length →
      ∃ last : List Float, p.foldlM (reduceStep .tolerant) stack = .ok last ∧ 0 < last.length ∧
        last.length = p.foldl heightStep stack.length := by
  induction p with
  | nil => exact fun {stack} hstack => ⟨stack, rfl, hstack, rfl⟩
  | cons t rest ih =>
    intro stack hstack
    obtain ⟨next, hstep, hheight⟩ := exists_reduceStep (fun _ => hstack)
      (hparen t List.mem_cons_self) fun text ht => hnumerals text (ht ▸ List.mem_cons_self)
    have hnext : 0 < next.length := hheight ▸ heightStep_pos hstack t
    obtain ⟨last, hrun, hlast⟩ := ih (fun s hs => hparen s (List.mem_cons_of_mem t hs))
      (fun text htext => hnumerals text (List.mem_cons_of_mem t htext)) hnext
    rw [hheight] at hlast
    exact ⟨last, bind_eq_ok_iff.mpr ⟨next, hstep, hrun⟩, hlast⟩

/-! ## 3. The strict walk -/

/-- Some front of the list that ends with an operator has no more numbers than operators. -/
def Starves (height : Nat) (p : List Token) : Prop :=
  ∃ before behind, CutBehindOperator p before behind ∧ height + surplus before < 1

theorem starves_num_iff {height : Nat} {text : String} {rest : List Token} :
    Starves height (.num text :: rest) ↔ Starves (height + 1) rest := by
  simp only [Starves, cutBehindOperator_cons_iff]
  constructor
  · rintro ⟨before, behind, ⟨o, ho, -⟩ | ⟨before', rfl, hcut⟩, hlow⟩
    · exact absurd ho nofun
    · rw [Token.surplus_num] at hlow
      exact ⟨before', behind, hcut, by omega⟩
  · rintro ⟨before, behind, hcut, hlow⟩
    exact ⟨_, behind, Or.inr ⟨before, rfl, hcut⟩, by rw [Token.surplus_num]; omega⟩

theorem starves_op_iff {height : Nat} {o : Operator} {rest : List Token} (h : 2 ≤ height) :
    Starves height (.op o :: rest) ↔ Starves (height - 1) rest := by
  simp only [Starves, cutBehindOperator_cons_iff]
  constructor
  · rintro ⟨before, behind, ⟨o', ho, rfl, -⟩ | ⟨before', rfl, hcut⟩, hlow⟩
    · rw [Token.surplus_op, Token.surplus_nil] at hlow
      omega
    · rw [Token.surplus_op] at hlow
      exact ⟨before', behind, hcut, by omega⟩
  · rintro ⟨before, behind, hcut, hlow⟩
    exact ⟨_, behind, Or.inr ⟨before, rfl, hcut⟩, by rw [Token.surplus_op]; omega⟩

/-- **The count is stopped where a front starves**, and there is one value at hand then. -/
theorem count_eq_error_iff (hparen : ∀ t ∈ p, t.isParen = false) {e : CalcError} :
    ∀ {height : Nat}, 0 < height →
      (p.foldlM countStep height = .error e ↔
        e = .insufficientOperands 1 ∧ Starves height p) := by
  induction p with
  | nil =>
    intro height _
    simp [Starves, not_cutBehindOperator_nil, pure, Except.pure]
  | cons t rest ih =>
    intro height hheight
    have hrest := fun s hs => hparen s (List.mem_cons_of_mem t hs)
    rw [List.foldlM_cons]
    cases t with
    | num text =>
      have hstep : countStep height (.num text) = .ok (height + 1) := rfl
      rw [hstep, ok_bind, ih hrest (Nat.succ_pos height), starves_num_iff]
    | op o =>
      rcases Nat.lt_or_ge height 2 with hlow | henough
      · obtain rfl : height = 1 := by omega
        have hstep : countStep 1 (.op o) = .error (.insufficientOperands 1) := rfl
        have hstarves : Starves 1 (.op o :: rest) :=
          ⟨[.op o], rest, ⟨rfl, [], o, rfl⟩, by simp⟩
        rw [hstep, error_bind, Except.error.injEq, eq_comm]
        exact ⟨fun he => ⟨he, hstarves⟩, And.left⟩
      · have hstep : countStep height (.op o) = .ok (height - 1) :=
          countStep_op_eq_ok_iff.mpr ⟨henough, rfl⟩
        rw [hstep, ok_bind, ih hrest (by omega), starves_op_iff henough]
    | lparen => exact absurd (hparen _ List.mem_cons_self) (by decide)
    | rparen => exact absurd (hparen _ List.mem_cons_self) (by decide)

/-- The count does not fall below one. -/
theorem count_pos {height n : Nat} (h : p.foldlM countStep height = .ok n) (hheight : 0 < height) :
    0 < n := by
  induction h using foldlM_ok_induction with
  | nil => exact hheight
  | @cons t rest height middle hstep _ ih =>
    refine ih ?_
    cases t with
    | num text =>
      obtain rfl := Except.ok.inj hstep
      exact Nat.succ_pos height
    | op o =>
      obtain ⟨hdepth, rfl⟩ := countStep_op_eq_ok_iff.mp hstep
      omega
    | lparen => exact absurd hstep nofun
    | rparen => exact absurd hstep nofun

/-! ## 4. Outcomes -/

/-- The outcome of an evaluation that ends with this many values: one of them is the result, and
any other number of them is reported. -/
def EndsWith (n : ℕ) (outcome : Except CalcError Float) : Prop :=
  ((∃ x, outcome = .ok x) ↔ n = 1) ∧ (n ≠ 1 → outcome = .error (.insufficientOperands n))

theorem endsWith_error {n : ℕ} (h : n ≠ 1) : EndsWith n (.error (.insufficientOperands n)) :=
  ⟨⟨fun ⟨_, hx⟩ => absurd hx nofun, fun hn => absurd hn h⟩, fun _ => rfl⟩

theorem endsWith_single (stack : List Float) : EndsWith stack.length (single stack) := by
  match stack with
  | [x] => exact ⟨⟨fun _ => rfl, fun _ => ⟨x, rfl⟩⟩, fun h => absurd rfl h⟩
  | [] => exact endsWith_error (by simp)
  | x :: y :: rest => exact endsWith_error (by simp)

/-- What is reported is the number of values, and not one. -/
theorem EndsWith.of_error {n m : ℕ} {outcome : Except CalcError Float} (h : EndsWith n outcome)
    (herror : outcome = .error (.insufficientOperands m)) : m = n ∧ n ≠ 1 := by
  have hn : n ≠ 1 := by
    intro hn
    obtain ⟨x, hx⟩ := h.1.mpr hn
    rw [hx] at herror
    exact absurd herror nofun
  have heq := h.2 hn
  rw [herror] at heq
  exact ⟨CalcError.insufficientOperands.inj (Except.error.inj heq), hn⟩

section

variable {text : String} {rest : List Token}
  (hparen : ∀ t ∈ Token.num text :: rest, t.isParen = false)
  (hnumerals : Token.AllNumerals (Token.num text :: rest))

include hparen hnumerals

/-- Behind a number at the beginning the tolerant evaluation comes to its end. -/
theorem exists_reduce : ∃ last : List Float, reduce .tolerant (.num text :: rest) = .ok last ∧
    0 < last.length ∧ last.length = (Token.num text :: rest).foldl heightStep 0 := by
  obtain ⟨first, hstep, hone⟩ : ∃ first : List Float,
      reduceStep .tolerant [] (.num text) = .ok first ∧ first.length = 1 :=
    exists_reduceStep nofun rfl fun _ htext => hnumerals _ (htext ▸ List.mem_cons_self)
  obtain ⟨last, hrun, hlast⟩ := exists_foldlM_reduceStep
    (fun s hs => hparen s (List.mem_cons_of_mem _ hs))
    (fun text' htext' => hnumerals text' (List.mem_cons_of_mem _ htext')) (hone ▸ Nat.one_pos)
  rw [hone] at hlast
  exact ⟨last, bind_eq_ok_iff.mpr ⟨first, hstep, hrun⟩, hlast⟩

/-- **The tolerant policy** ends at the largest of the heights. -/
theorem exists_endsWith_tolerant : ∃ h : ℕ, IsGreatest (heights 0 (.num text :: rest)) (h : ℤ) ∧
    0 < h ∧ EndsWith h (evaluate .tolerant (.num text :: rest)) := by
  obtain ⟨last, hrun, hpos, hheight⟩ := exists_reduce hparen hnumerals
  have hvalue : (evaluate .tolerant (.num text :: rest) : Except CalcError Float) =
      single last := by
    rw [evaluate, hrun]
    rfl
  have hgreatest := isGreatest_height hparen 0
  rw [← hheight] at hgreatest
  exact ⟨last.length, hgreatest, hpos, hvalue ▸ endsWith_single last⟩

/-- **The strict policy** ends at the surplus, if no front starves. -/
theorem exists_endsWith_strict (hfed : ¬ Starves 0 (.num text :: rest)) :
    ∃ n : ℕ, surplus (.num text :: rest) = n ∧ 0 < n ∧
      EndsWith n (evaluate .strict (.num text :: rest)) := by
  rw [starves_num_iff] at hfed
  have hrest := fun s hs => hparen s (List.mem_cons_of_mem _ hs)
  cases hrun : rest.foldlM countStep 1 with
  | error e => exact absurd ((count_eq_error_iff hrest Nat.one_pos).mp hrun).2 hfed
  | ok n =>
    have hcount : (Token.num text :: rest).foldlM countStep 0 = .ok n := hrun
    have haccount := count_account hcount
    have hsurplus : surplus (.num text :: rest) = n := by
      rw [surplus]
      omega
    refine ⟨n, hsurplus, count_pos hrun Nat.one_pos, ?_⟩
    by_cases hn : n = 1
    · subst hn
      have hbalance := checkBalance_eq_ok_iff.mpr hcount
      obtain ⟨last, hreduce, -, -⟩ := exists_reduce hparen hnumerals
      have hone : last.length = 1 := length_reduce [] hcount hreduce
      have hvalue : (evaluate .strict (.num text :: rest) : Except CalcError Float) =
          single last := by
        rw [evaluate_of_balanced hbalance, evaluate, hreduce]
        rfl
      rw [hvalue, ← hone]
      exact endsWith_single last
    · have hbalance : checkBalance (.num text :: rest) = .error (.insufficientOperands n) := by
        rw [checkBalance, hcount, ok_bind, if_neg hn]
      rw [evaluate_of_not_balanced hbalance]
      exact endsWith_error hn

omit hnumerals in
/-- Where a front starves, the strict policy reports the one value at hand. -/
theorem evaluate_of_starves (hstarves : Starves 0 (.num text :: rest)) :
    evaluate .strict (.num text :: rest) =
      (.error (.insufficientOperands 1) : Except CalcError Float) := by
  have hcount : (Token.num text :: rest).foldlM countStep 0 = .error (.insufficientOperands 1) :=
    (count_eq_error_iff (fun s hs => hparen s (List.mem_cons_of_mem _ hs)) Nat.one_pos).mpr
      ⟨rfl, starves_num_iff.mp hstarves⟩
  exact evaluate_of_not_balanced (by rw [checkBalance, hcount, error_bind])

end

end Postfix

/-- **How many values remain**, of a list without parentheses whose numbers are numerals, in
binary64.  None remains just if the list is empty or begins with an operator.  Any other list
ends, under the tolerant policy, with as many values as the largest of its heights says.  Under
the strict policy one value is at hand where a front of the list that ends with an operator has
no more numbers than operators, and if there is none, as many remain as there are numbers more
than operators.  One value at the end is the result, and any other number of them is an
error. -/
theorem remaining_values {p : List Token} (hparen : ∀ t ∈ p, t.isParen = false)
    (hnumerals : Token.AllNumerals p) :
    (∀ policy, Postfix.evaluate policy p =
        (.error (.insufficientOperands 0) : Except CalcError Float) ↔
      p = [] ∨ ∃ o rest, p = .op o :: rest) ∧
    (¬ (p = [] ∨ ∃ o rest, p = .op o :: rest) →
      (∃ h : ℕ, IsGreatest (Postfix.heights 0 p) (h : ℤ) ∧
        Postfix.EndsWith h (Postfix.evaluate .tolerant p) ∧
        Postfix.evaluate .tolerant p ≠
          (.error (.insufficientOperands 1) : Except CalcError Float)) ∧
      (Postfix.evaluate .strict p =
          (.error (.insufficientOperands 1) : Except CalcError Float) ↔ Postfix.Starves 0 p) ∧
      (¬ Postfix.Starves 0 p → ∃ n : ℕ, surplus p = n ∧
        Postfix.EndsWith n (Postfix.evaluate .strict p))) := by
  by_cases hstart : p = [] ∨ ∃ o rest, p = .op o :: rest
  · refine ⟨fun policy => ⟨fun _ => hstart, fun _ => ?_⟩, fun h => absurd hstart h⟩
    rcases hstart with rfl | ⟨o, rest, rfl⟩
    · cases policy <;> rfl
    · cases policy <;> rfl
  · obtain ⟨text, rest, rfl⟩ := Token.eq_num_cons_of_start hparen hstart
    obtain ⟨h, hgreatest, hpos, htolerant⟩ :=
      Postfix.exists_endsWith_tolerant hparen hnumerals
    refine ⟨fun policy => ⟨fun herror => ?_, fun h => absurd h hstart⟩, fun _ => ⟨?_, ?_, ?_⟩⟩
    · exfalso
      cases policy with
      | tolerant => exact hpos.ne (htolerant.of_error herror).1
      | strict =>
        by_cases hstarves : Postfix.Starves 0 (.num text :: rest)
        · rw [Postfix.evaluate_of_starves hparen hstarves] at herror
          exact absurd herror (by simp)
        · obtain ⟨n, -, hn, hstrict⟩ := Postfix.exists_endsWith_strict hparen hnumerals hstarves
          exact hn.ne (hstrict.of_error herror).1
    · refine ⟨h, hgreatest, htolerant, fun herror => ?_⟩
      obtain ⟨hone, hne⟩ := htolerant.of_error herror
      exact hne hone.symm
    · refine ⟨fun herror => ?_, Postfix.evaluate_of_starves hparen⟩
      by_contra hfed
      obtain ⟨n, -, -, hstrict⟩ := Postfix.exists_endsWith_strict hparen hnumerals hfed
      obtain ⟨hone, hne⟩ := hstrict.of_error herror
      exact hne hone.symm
    · intro hfed
      obtain ⟨n, hsurplus, -, hstrict⟩ := Postfix.exists_endsWith_strict hparen hnumerals hfed
      exact ⟨n, hsurplus, hstrict⟩

/-- Of `1 + 2 3` three values remain under the tolerant policy, which starts anew behind the
operator, and the strict policy stops at the operator, with one value. -/
theorem remaining_values_behind_operator :
    Postfix.evaluate .tolerant [.num "1", .op .plus, .num "2", .num "3"] =
        (.error (.insufficientOperands 3) : Except CalcError Float) ∧
      Postfix.evaluate .strict [.num "1", .op .plus, .num "2", .num "3"] =
        (.error (.insufficientOperands 1) : Except CalcError Float) := by
  have hparen : ∀ t ∈ [Token.num "1", .op .plus, .num "2", .num "3"], t.isParen = false := by
    decide
  have hnumerals : Token.AllNumerals [.num "1", .op .plus, .num "2", .num "3"] := by
    intro text htext
    have hdigit : text = "1" ∨ text = "2" ∨ text = "3" := by simpa using htext
    rcases hdigit with rfl | rfl | rfl <;> decide +kernel
  obtain ⟨⟨h, hgreatest, htolerant, -⟩, hstrict, -⟩ :=
    (remaining_values hparen hnumerals).2 (by simp)
  have hheight : IsGreatest (Postfix.heights 0 [.num "1", .op .plus, .num "2", .num "3"]) (3 : ℕ) :=
    Postfix.isGreatest_height hparen 0
  obtain rfl : h = 3 := by exact_mod_cast hgreatest.unique hheight
  have hstarves : Postfix.Starves 0 [.num "1", .op .plus, .num "2", .num "3"] :=
    ⟨[.num "1", .op .plus], _, ⟨rfl, [.num "1"], .plus, rfl⟩, by decide⟩
  exact ⟨htolerant.2 (by decide), hstrict.mpr hstarves⟩

end PostfixCalculator
