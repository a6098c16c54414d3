/-
# The tree of a postfix list

A postfix list has no parentheses and needs none.  Evaluated with trees in the place of
values, it gives the tree whose postfix form it is, and it gives no tree if it is no such form
(`Postfix.tree_eq_ok_iff`).  So no two trees have one postfix form.

The balance check is that evaluation with the trees forgotten: at any time its count is the
number of trees at hand, and it fails where they run out, with the same error
(`Postfix.countStep_eq`, `Postfix.checkBalance_eq`).  So a list is in balance exactly if it is
a postfix form, and then it is what some sentence is sorted into, namely the sentence with
every operation in parentheses.
-/
import PostfixCalculator.Postfix.Sorting
import PostfixCalculator.Proofs.Expr.Derivation
import PostfixCalculator.Proofs.Postfix.Policies

namespace PostfixCalculator

/-! ## 1. Trees in the place of values -/

namespace Postfix

/-- The trees at hand, the last one first, after one more token. -/
def growStep (trees : List Expr) : Token → Except CalcError (List Expr)
  | .num text => .ok (.literal text :: trees)
  | .op o =>
    match trees with
    | right :: left :: rest => .ok (.binary o left right :: rest)
    | _ => .error (.insufficientOperands trees.length)
  | token => .error (.unknownOperator token.text)

/-- The tree that a postfix list is read as. -/
def tree (tokens : List Token) : Except CalcError Expr := do
  single (← tokens.foldlM growStep [])

/-- The tokens of the trees at hand: their postfix forms, the last one at the end. -/
def spelled (trees : List Expr) : List Token := trees.reverse.flatMap Expr.postorder

@[simp] theorem spelled_cons (e : Expr) (trees : List Expr) :
    spelled (e :: trees) = spelled trees ++ e.postorder := by
  simp [spelled]

theorem growStep_op_eq_ok_iff {trees trees' : List Expr} {o : Operator} :
    growStep trees (.op o) = .ok trees' ↔
      ∃ right left rest, trees = right :: left :: rest ∧ trees' = .binary o left right :: rest := by
  constructor
  · intro h
    match trees, h with
    | right :: left :: rest, h => exact ⟨right, left, rest, rfl, (Except.ok.inj h).symm⟩
    | [_], h => exact absurd h nofun
    | [], h => exact absurd h nofun
  · rintro ⟨right, left, rest, rfl, rfl⟩
    rfl

/-- One step: the trees at hand are spelled by the tokens that were read. -/
theorem spelled_growStep {trees trees' : List Expr} {t : Token}
    (h : growStep trees t = .ok trees') : spelled trees' = spelled trees ++ [t] := by
  cases t with
  | num text =>
    obtain rfl := Except.ok.inj h
    exact spelled_cons _ _
  | op o =>
    obtain ⟨right, left, rest, rfl, rfl⟩ := growStep_op_eq_ok_iff.mp h
    simp [Expr.postorder]
  | lparen => cases h
  | rparen => cases h

/-- **A run loses no token**: the trees at hand are spelled by all that was read. -/
theorem spelled_foldlM {p : List Token} {trees trees' : List Expr}
    (h : p.foldlM growStep trees = .ok trees') : spelled trees' = spelled trees ++ p := by
  induction h using foldlM_ok_induction with
  | nil => rw [List.append_nil]
  | cons hstep _ ih =>
    rw [ih, spelled_growStep hstep, List.append_assoc, List.singleton_append]

/-- **A postfix form is read as its tree**, whatever trees are at hand before. -/
theorem foldlM_growStep_postorder (e : Expr) :
    ∀ trees : List Expr, e.postorder.foldlM growStep trees = .ok (e :: trees) := by
  induction e with
  | literal text => exact fun trees => rfl
  | binary o left right ihl ihr =>
    intro trees
    rw [Expr.postorder, List.foldlM_append, List.foldlM_append, ihl, ok_bind, ihr, ok_bind]
    rfl

theorem single_eq_ok_iff {α : Type} {stack : List α} {x : α} :
    single stack = .ok x ↔ stack = [x] := by
  constructor
  · intro h
    unfold single at h
    split at h
    · rw [Except.ok.inj h]
    · exact absurd h nofun
  · rintro rfl
    rfl

/-- **A list is read as a tree exactly if it is the postfix form of the tree.** -/
theorem tree_eq_ok_iff {p : List Token} {e : Expr} : tree p = .ok e ↔ p = e.postorder := by
  constructor
  · intro h
    obtain ⟨trees, hrun, hsingle⟩ := bind_eq_ok_iff.mp h
    obtain rfl := single_eq_ok_iff.mp hsingle
    simpa [spelled] using (spelled_foldlM hrun).symm
  · rintro rfl
    rw [tree, foldlM_growStep_postorder]
    rfl

/-! ## 2. The count of the trees -/

/-- One step: the count is that of the trees, and it fails where they run out. -/
theorem countStep_eq (trees : List Expr) (t : Token) :
    countStep trees.length t = List.length <$> growStep trees t := by
  cases t with
  | num text => rfl
  | op o =>
    match trees with
    | right :: left :: rest => simp [countStep, growStep]
    | [right] => rfl
    | [] => rfl
  | lparen => rfl
  | rparen => rfl

/-- A run, too. -/
theorem foldlM_countStep_eq (p : List Token) :
    ∀ trees : List Expr,
      p.foldlM countStep trees.length = List.length <$> p.foldlM growStep trees := by
  induction p with
  | nil => exact fun trees => rfl
  | cons t p ih =>
    intro trees
    rw [List.foldlM_cons, List.foldlM_cons, countStep_eq]
    cases growStep trees t with
    | error e => rfl
    | ok trees' => exact ih trees'

/-- **The balance check reads the tree and forgets it**; it fails with the error of the
reading. -/
theorem checkBalance_eq (p : List Token) : checkBalance p = (fun _ => ()) <$> tree p := by
  have hcount : p.foldlM countStep 0 = List.length <$> p.foldlM growStep [] :=
    foldlM_countStep_eq p []
  rw [checkBalance, tree, hcount]
  cases p.foldlM growStep [] with
  | error e => rfl
  | ok trees =>
    cases trees with
    | nil => rfl
    | cons e rest =>
      cases rest with
      | nil => rfl
      | cons e' rest => simp [single]

/-- **The lists in balance are the postfix forms.** -/
theorem balanced_iff_postorder {p : List Token} :
    checkBalance p = .ok () ↔ ∃ e : Expr, p = e.postorder := by
  rw [checkBalance_eq, map_eq_ok_iff]
  simp only [tree_eq_ok_iff, and_true]

end Postfix

/-- **Postfix forms are unambiguous.** -/
theorem Expr.postorder_injective {e e' : Expr} (h : e.postorder = e'.postorder) : e = e' := by
  have htree : Postfix.tree e.postorder = .ok e' := Postfix.tree_eq_ok_iff.mpr h
  rw [Postfix.tree_eq_ok_iff.mpr rfl] at htree
  exact Except.ok.inj htree

/-! ## 3. Sentences -/

namespace Expr

/-- The sentence with every operation in parentheses. -/
def sentence : Expr → List Token
  | literal text => [.num text]
  | binary o left right => .lparen :: (left.sentence ++ .op o :: right.sentence) ++ [.rparen]

/-- It is one factor to what stands around it. -/
theorem derives_sentence (e : Expr) : Derives 3 e.sentence e := by
  induction e with
  | literal text => exact .num text
  | binary o left right ihl ihr =>
    have hlevel : 1 ≤ o.precedence ∧ o.precedence + 1 ≤ 3 := by
      rcases o.precedence_cases with ho | ho <;> omega
    have hoperation : Derives o.precedence (left.sentence ++ .op o :: right.sentence)
        (.binary o left right) :=
      .binary o (ihl.of_le (Nat.le_of_succ_le hlevel.2)) (ihr.of_le hlevel.2)
    exact .paren (hoperation.of_le hlevel.1)

theorem writes_sentence (e : Expr) : Writes e.sentence e := e.derives_sentence.of_le (by decide)

end Expr

/-- **The lists in balance are what sentences are sorted into**, and all sentences that are
sorted into one list write one tree. -/
theorem balanced_iff_sorted_from_sentence (p : List Token) :
    (Postfix.checkBalance p = .ok () ↔
        ∃ tokens e, Writes tokens e ∧ Postfix.ofInfix tokens = .ok p) ∧
      ∀ tokens tokens' e e', Writes tokens e → Postfix.ofInfix tokens = .ok p →
        Writes tokens' e' → Postfix.ofInfix tokens' = .ok p → e = e' := by
  have hsorted : ∀ {tokens e}, Writes tokens e → Postfix.ofInfix tokens = .ok p →
      p = e.postorder := by
    intro tokens e he hsort
    rw [Postfix.ofInfix_of_writes he] at hsort
    exact (Except.ok.inj hsort).symm
  refine ⟨?_, ?_⟩
  · rw [Postfix.balanced_iff_postorder]
    constructor
    · rintro ⟨e, rfl⟩
      exact ⟨e.sentence, e, e.writes_sentence, Postfix.ofInfix_of_writes e.writes_sentence⟩
    · rintro ⟨tokens, e, he, hsort⟩
      exact ⟨e, hsorted he hsort⟩
  · intro tokens tokens' e e' he hsort he' hsort'
    exact Expr.postorder_injective ((hsorted he hsort).symm.trans (hsorted he' hsort'))

/-- `8-2-1` and `((8-2)-1)` are sorted into one list, so whatever tree one of them writes is
the tree of the other. -/
theorem balanced_iff_sorted_from_difference :
    Postfix.checkBalance [.num "8", .num "2", .op .minus, .num "1", .op .minus] = .ok () ∧
      ∀ e, Writes [.num "8", .op .minus, .num "2", .op .minus, .num "1"] e →
        e = .binary .minus (.binary .minus (.literal "8") (.literal "2")) (.literal "1") := by
  have hsentence := balanced_iff_sorted_from_sentence
    [.num "8", .num "2", .op .minus, .num "1", .op .minus]
  refine ⟨rfl, ?_⟩
  intro e he
  exact hsentence.2 _ _ _ _ he rfl (Expr.writes_sentence _) rfl

end PostfixCalculator
