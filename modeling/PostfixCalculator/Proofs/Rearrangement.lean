/-
# What sorting does to an expression

The yard moves operators back and drops parentheses (`Postfix.deferred_of_ofInfix`).  Seen from
the two lists: every token of the expression but its parentheses has a place of its own in the
postfix form, the numbers follow one another as before, and an operator comes behind all the
numbers that it came behind in the expression (`sorting_moves_operators_back`).

With the parentheses gone there is no word left in the list that an evaluation does not know.
-/
import PostfixCalculator.Proofs.Failure

namespace PostfixCalculator

namespace Token

/-- The tokens that are no parentheses, each with its place in the expression. -/
def places (tokens : List Token) : List (Token × Nat) :=
  tokens.zipIdx.filter (!·.1.isParen)

theorem map_fst_places (tokens : List Token) :
    (places tokens).map Prod.fst = unparenthesized tokens := by
  have hfilter : (tokens.zipIdx.map Prod.fst).filter (!·.isParen) =
      (places tokens).map Prod.fst := List.filter_map
  rw [← hfilter, List.zipIdx_map_fst]
  rfl

/-- In the expression itself the places ascend. -/
theorem noNumberOvertaken_places (tokens : List Token) : NoNumberOvertaken (places tokens) := by
  have hascend : (tokens.zipIdx.map Prod.snd).Pairwise (· < ·) := by
    rw [List.zipIdx_map_snd]
    exact List.pairwise_lt_range'
  have hplaces : (places tokens).Pairwise fun s t => s.2 < t.2 :=
    (List.pairwise_map.mp hascend).filter _
  refine List.Pairwise.imp ?_ hplaces
  exact fun {s t} hlt _ => hlt

/-- A number is no parenthesis. -/
theorem filter_isNumber_unparenthesized (tokens : List Token) :
    (unparenthesized tokens).filter isNumber = tokens.filter isNumber := by
  rw [unparenthesized, List.filter_filter]
  refine List.filter_congr fun t _ => ?_
  cases t <;> rfl

end Token

/-- **Sorting loses, doubles and invents nothing.**  Of what can be sorted, the postfix form has
no parentheses, and is a permutation of the other tokens.  The numbers are in the same order.
The tokens can be told apart by their places in the expression, and then a number of the
postfix form comes behind no token that it was in front of.  So no evaluation of the form meets
a word that it does not know. -/
theorem sorting_moves_operators_back {tokens p : List Token} (h : Postfix.ofInfix tokens = .ok p) :
    (∀ t ∈ p, t ≠ .lparen ∧ t ≠ .rparen) ∧
      p.Perm (Token.unparenthesized tokens) ∧
      p.filter Token.isNumber = tokens.filter Token.isNumber ∧
      (∃ placed : List (Token × Nat), placed.map Prod.fst = p ∧
        placed.Perm (Token.places tokens) ∧ Token.NoNumberOvertaken placed) ∧
      ∀ (a : Arithmetic) (policy : Policy) (word : String),
        (Postfix.evaluate policy p : Except CalcError a.Domain) ≠
          .error (.unknownOperator word) := by
  have hdeferred := Postfix.deferred_of_ofInfix h
  have hparen : ∀ t ∈ p, t.isParen = false := fun t => Postfix.isParen_of_mem_ofInfix h
  refine ⟨?_, hdeferred.perm, ?_, ?_, ?_⟩
  · intro t ht
    have hkept := hparen t ht
    constructor
    · rintro rfl
      exact absurd hkept (by decide)
    · rintro rfl
      exact absurd hkept (by decide)
  · rw [hdeferred.filter_isNumber, Token.filter_isNumber_unparenthesized]
  · exact hdeferred.exists_placed (Token.map_fst_places tokens)
      (Token.noNumberOvertaken_places tokens)
  · intro a policy word herror
    exact absurd (Postfix.refusesText_of_evaluate hparen herror) nofun

/-- `2*(3-4)-5` is sorted into `2 3 4 - * 5 -`, and its two minus signs can be told apart. -/
theorem sorting_moves_operators_back_of_difference :
    Postfix.ofInfix [.num "2", .op .times, .lparen, .num "3", .op .minus, .num "4", .rparen,
        .op .minus, .num "5"] =
      .ok [.num "2", .num "3", .num "4", .op .minus, .op .times, .num "5", .op .minus] ∧
    ∃ placed : List (Token × Nat),
      placed.map Prod.fst =
        [.num "2", .num "3", .num "4", .op .minus, .op .times, .num "5", .op .minus] ∧
      placed.Perm [(.num "2", 0), (.op .times, 1), (.num "3", 3), (.op .minus, 4), (.num "4", 5),
        (.op .minus, 7), (.num "5", 8)] ∧
      Token.NoNumberOvertaken placed := by
  have hsort : Postfix.ofInfix [.num "2", .op .times, .lparen, .num "3", .op .minus, .num "4",
      .rparen, .op .minus, .num "5"] =
        .ok [.num "2", .num "3", .num "4", .op .minus, .op .times, .num "5", .op .minus] := rfl
  exact ⟨hsort, (sorting_moves_operators_back hsort).2.2.2.1⟩

end PostfixCalculator
