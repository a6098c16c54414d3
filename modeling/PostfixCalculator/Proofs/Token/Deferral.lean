/-
# Operators moved back

Infix and postfix order have the same numbers in the same order, and differ in where the
operators stand.  A list is deferred to another if the operators in it are moved back, each
past tokens that stood behind it (`Token.Deferred`).  A number is never moved back.

What this comes to can be told without the moves.  The tokens of the second list are those of
the first, each at a place of its own, and a number that follows another token in the second
list has followed it in the first (`Token.Deferred.exists_placed`).  So a number that stood
before an operator still does.
-/
import PostfixCalculator.Proofs.Token.Layout

namespace PostfixCalculator.Token

/-- The second list is the first one with operators moved back. -/
inductive Deferred : List Token → List Token → Prop where
  | refl (p : List Token) : Deferred p p
  | pass (o : Operator) (t : Token) (rest : List Token) :
    Deferred (op o :: t :: rest) (t :: op o :: rest)
  | cons {p q : List Token} (t : Token) : Deferred p q → Deferred (t :: p) (t :: q)
  | trans {p q r : List Token} : Deferred p q → Deferred q r → Deferred p r

namespace Deferred

variable {p q : List Token}

/-! ## 1. Moves -/

theorem append_left (h : Deferred p q) (front : List Token) :
    Deferred (front ++ p) (front ++ q) := by
  induction front with
  | nil => exact h
  | cons t front ih => exact ih.cons t

theorem append_right (h : Deferred p q) (back : List Token) :
    Deferred (p ++ back) (q ++ back) := by
  induction h with
  | refl p => exact refl _
  | pass o t rest => exact pass o t (rest ++ back)
  | cons t _ ih => exact ih.cons t
  | trans _ _ ih ih' => exact ih.trans ih'

/-- A token may pass all operators in front of it. -/
theorem pass_operators (operators : List Operator) (t : Token) (rest : List Token) :
    Deferred (operators.map op ++ t :: rest) (t :: (operators.map op ++ rest)) := by
  induction operators with
  | nil => exact refl _
  | cons o operators ih => exact (ih.cons (op o)).trans (pass o t _)

/-- Operators may take any order among themselves. -/
theorem of_perm {first second : List Operator} (h : first.Perm second) :
    Deferred (first.map op) (second.map op) := by
  induction h with
  | nil => exact refl []
  | cons o _ ih => exact ih.cons (op o)
  | swap o o' rest => exact pass o' (op o) (rest.map op)
  | trans _ _ ih ih' => exact ih.trans ih'

/-! ## 2. What is kept -/

/-- No token is lost, added or doubled. -/
theorem perm (h : Deferred p q) : q.Perm p := by
  induction h with
  | refl p => exact List.Perm.refl p
  | pass o t rest => exact List.Perm.swap (op o) t rest
  | cons t _ ih => exact ih.cons t
  | trans _ _ ih ih' => exact ih'.trans ih

/-- **The numbers keep their order.** -/
theorem filter_isNumber (h : Deferred p q) : q.filter isNumber = p.filter isNumber := by
  induction h with
  | refl p => rfl
  | pass o t rest =>
    have hop : isNumber (op o) = false := rfl
    cases ht : t.isNumber with
    | true => simp [hop, ht]
    | false => simp [hop, ht]
  | cons t _ ih => rw [List.filter_cons, List.filter_cons, ih]
  | trans _ _ ih ih' => rw [ih', ih]

end Deferred

/-! ## 3. Places -/

/-- Of tokens with the places that they had, no number stands behind a token that it had stood
before. -/
def NoNumberOvertaken (placed : List (Token × Nat)) : Prop :=
  placed.Pairwise fun s t => t.1.isNumber = true → s.2 < t.2

/-- **A number that stood before a token still stands before it**, for every token of the first
list, wherever it is in the second. -/
theorem Deferred.exists_placed {p q : List Token} (h : Deferred p q) :
    ∀ {placed : List (Token × Nat)}, placed.map Prod.fst = p → NoNumberOvertaken placed →
      ∃ placed' : List (Token × Nat), placed'.map Prod.fst = q ∧ placed'.Perm placed ∧
        NoNumberOvertaken placed' := by
  induction h with
  | refl p => exact fun {placed} hp hplaced => ⟨placed, hp, List.Perm.refl _, hplaced⟩
  | pass o t rest =>
    rintro placed hp hplaced
    obtain ⟨⟨_, i⟩, tail, rfl, rfl, htail⟩ := List.map_eq_cons_iff.mp hp
    obtain ⟨⟨_, j⟩, more, rfl, rfl, rfl⟩ := List.map_eq_cons_iff.mp htail
    obtain ⟨hop, hrest⟩ := List.pairwise_cons.mp hplaced
    obtain ⟨ht, hmore⟩ := List.pairwise_cons.mp hrest
    refine ⟨_, rfl, List.Perm.swap _ _ _, List.pairwise_cons.mpr ⟨?_, ?_⟩⟩
    · -- the token that was passed comes before the operator now, and that is no number
      refine List.forall_mem_cons.mpr ⟨nofun, ht⟩
    · exact List.pairwise_cons.mpr ⟨fun s hs => hop s (List.mem_cons_of_mem _ hs), hmore⟩
  | cons t _ ih =>
    rintro placed hp hplaced
    obtain ⟨s, tail, rfl, rfl, htail⟩ := List.map_eq_cons_iff.mp hp
    obtain ⟨hs, hrest⟩ := List.pairwise_cons.mp hplaced
    obtain ⟨tail', hq, hperm, htail'⟩ := ih htail hrest
    refine ⟨s :: tail', congrArg (s.1 :: ·) hq, hperm.cons s, List.pairwise_cons.mpr ⟨?_, htail'⟩⟩
    exact fun t ht => hs t (hperm.mem_iff.mp ht)
  | trans _ _ ih ih' =>
    rintro placed hp hplaced
    obtain ⟨middle, hmiddle, hperm, hkept⟩ := ih hp hplaced
    obtain ⟨placed', hq, hperm', hkept'⟩ := ih' hmiddle hkept
    exact ⟨placed', hq, hperm'.trans hperm, hkept'⟩

end PostfixCalculator.Token
