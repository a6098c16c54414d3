/-
# All that waits, on one stack

The yard keeps a siding for each level.  Laid end to end, with the parenthesis that opened it
below each siding but the outermost, the sidings are one stack of tokens (`Yard.oneStack`).  A
machine that has such a stack and nothing else (`OneStack`) takes tokens in as the yard does,
one by one, and comes to the same end (`OneStack.step_oneStack`,
`OneStack.ofInfix_eq_oneStack`).

On a siding the precedence goes up with every operator (`Yard.Ascending`).  An operator that
comes in sends out all that bind at least as tightly, and only then waits, so that it binds
more tightly than the one below it (`Yard.ascending_step`); nothing else changes a siding.  Of
two precedences no more than two can go up, so the stack is short (`Yard.length_stack_le`).
-/
import PostfixCalculator.Proofs.Postfix.Matching

namespace PostfixCalculator

/-! ## 1. The machine -/

/-- A yard with one stack, where open parentheses stand between the operators that wait. -/
structure OneStack where
  /-- What has gone out, the last token first. -/
  output : List Token := []
  /-- What waits, the last token first. -/
  stack : List Token := []

/-- Is it an operator that goes out before `next` comes in? -/
def Token.goesBefore (next : Operator) : Token → Bool
  | .op o => o.goesBefore next
  | _ => false

namespace OneStack

/-- Takes one token in. -/
def step (s : OneStack) : Token → Except CalcError OneStack
  | .num text => .ok { s with output := .num text :: s.output }
  | .op o =>
    .ok {
      output := (s.stack.takeWhile (Token.goesBefore o)).reverse ++ s.output
      stack := .op o :: s.stack.dropWhile (Token.goesBefore o) }
  | .lparen => .ok { s with stack := .lparen :: s.stack }
  | .rparen =>
    match s.stack.dropWhile (· != .lparen) with
    | [] => .error .mismatchedParenthesis
    | _ :: below => .ok ⟨(s.stack.takeWhile (· != .lparen)).reverse ++ s.output, below⟩

/-- Empties the stack.  A parenthesis that is still on it has no partner. -/
def finish (s : OneStack) : Except CalcError (List Token) :=
  match s.stack.dropWhile (· != .lparen) with
  | [] => .ok (s.stack.reverse ++ s.output).reverse
  | _ :: _ => .error .mismatchedParenthesis

end OneStack

/-! ## 2. The yard as such a machine -/

namespace Yard

/-- The levels around the current one: each has its parenthesis on top of what waits in it. -/
def opened (enclosing : List (List Operator)) : List Token :=
  enclosing.flatMap fun siding => .lparen :: siding.map .op

/-- What waits, the current level first. -/
def stack (yard : Yard) : List Token := yard.siding.map .op ++ opened yard.enclosing

/-- The yard with all that waits on one stack. -/
def oneStack (yard : Yard) : OneStack := ⟨yard.output, yard.stack⟩

theorem opened_cons (outer : List Operator) (enclosing : List (List Operator)) :
    opened (outer :: enclosing) = .lparen :: (outer.map .op ++ opened enclosing) := rfl

/-- A test that no parenthesis passes takes nothing from the levels around. -/
theorem takeWhile_dropWhile_opened {p : Token → Bool} (hp : p .lparen = false)
    (enclosing : List (List Operator)) :
    (opened enclosing).takeWhile p = [] ∧ (opened enclosing).dropWhile p = opened enclosing := by
  cases enclosing with
  | nil => exact ⟨rfl, rfl⟩
  | cons outer enclosing => simp [opened_cons, hp]

/-- So it cuts the stack within the current level. -/
theorem takeWhile_dropWhile_stack {p : Token → Bool} (hp : p .lparen = false)
    (siding : List Operator) (enclosing : List (List Operator)) :
    (siding.map Token.op ++ opened enclosing).takeWhile p =
        (siding.takeWhile fun o => p (.op o)).map Token.op ∧
      (siding.map Token.op ++ opened enclosing).dropWhile p =
        (siding.dropWhile fun o => p (.op o)).map Token.op ++ opened enclosing := by
  induction siding with
  | nil => exact takeWhile_dropWhile_opened hp enclosing
  | cons o siding ih =>
    obtain ⟨htake, hdrop⟩ := ih
    by_cases ho : p (.op o) = true
    · simp [ho, htake, hdrop]
    · simp [ho]

/-- The current level is all that stands before the first parenthesis. -/
theorem takeWhile_dropWhile_lparen (siding : List Operator) (enclosing : List (List Operator)) :
    (siding.map Token.op ++ opened enclosing).takeWhile (· != .lparen) = siding.map Token.op ∧
      (siding.map Token.op ++ opened enclosing).dropWhile (· != .lparen) = opened enclosing := by
  have hop : ∀ t ∈ siding.map Token.op, (t != .lparen) = true := by
    intro t ht
    obtain ⟨o, -, rfl⟩ := List.mem_map.mp ht
    rfl
  obtain ⟨htake, hdrop⟩ := takeWhile_dropWhile_opened (p := (· != .lparen)) (by decide) enclosing
  rw [List.takeWhile_append_of_pos hop, List.dropWhile_append_of_pos hop, htake, hdrop,
    List.append_nil]
  exact ⟨rfl, rfl⟩

end Yard

namespace OneStack

/-- **One token**: the machine does what the yard does. -/
theorem step_oneStack (yard : Yard) (t : Token) :
    yard.oneStack.step t = Yard.oneStack <$> yard.step t := by
  cases t with
  | num text => rfl
  | op o =>
    obtain ⟨htake, hdrop⟩ := Yard.takeWhile_dropWhile_stack (p := Token.goesBefore o) rfl
      yard.siding yard.enclosing
    simp only [step, Yard.step, Yard.oneStack, Yard.stack, htake, hdrop, map_ok]
    rfl
  | lparen =>
    simp only [step, Yard.step, Yard.oneStack, Yard.stack, map_ok]
    rfl
  | rparen =>
    obtain ⟨htake, hdrop⟩ := Yard.takeWhile_dropWhile_lparen yard.siding yard.enclosing
    simp only [step, Yard.step, Yard.oneStack, Yard.stack, htake, hdrop]
    cases yard.enclosing with
    | nil => rfl
    | cons outer enclosing => rfl

/-- **A list of tokens.** -/
theorem foldlM_oneStack (tokens : List Token) :
    ∀ yard : Yard, tokens.foldlM step yard.oneStack =
      Yard.oneStack <$> tokens.foldlM Yard.step yard := by
  induction tokens with
  | nil => exact fun _ => rfl
  | cons t tokens ih =>
    intro yard
    rw [List.foldlM_cons, List.foldlM_cons, step_oneStack]
    cases yard.step t with
    | error e => rfl
    | ok next => exact ih next

theorem finish_oneStack (yard : Yard) : yard.oneStack.finish = yard.finish := by
  obtain ⟨-, hdrop⟩ := Yard.takeWhile_dropWhile_lparen yard.siding yard.enclosing
  simp only [finish, Yard.finish, Yard.oneStack, Yard.stack, hdrop]
  cases yard.enclosing with
  | nil => simp [Yard.opened, Yard.release]
  | cons outer enclosing => rfl

/-- **One stack sorts as the yard does.** -/
theorem ofInfix_eq_oneStack (tokens : List Token) :
    Postfix.ofInfix tokens = tokens.foldlM step {} >>= finish := by
  have hrun : tokens.foldlM step {} = Yard.oneStack <$> tokens.foldlM Yard.step {} :=
    foldlM_oneStack tokens {}
  rw [Postfix.ofInfix, hrun]
  cases tokens.foldlM Yard.step {} with
  | error e => rfl
  | ok yard => exact (finish_oneStack yard).symm

end OneStack

/-! ## 3. Operators that wait -/

/-- The precedence goes down along the list. -/
def Descends (operators : List Operator) : Prop :=
  operators.Pairwise fun first second => second.precedence < first.precedence

instance (operators : List Operator) : Decidable (Descends operators) :=
  inferInstanceAs (Decidable (operators.Pairwise _))

/-- There are two precedences. -/
theorem Descends.length_le {operators : List Operator} (h : Descends operators) :
    operators.length ≤ 2 := by
  have hlow : ∀ o : Operator, 1 ≤ o.precedence := fun o => by cases o <;> decide
  have hhigh : ∀ o : Operator, o.precedence ≤ 2 := fun o => by cases o <;> decide
  match operators with
  | [] => exact Nat.zero_le 2
  | [_] => exact Nat.le_succ 1
  | [_, _] => exact Nat.le_refl 2
  | first :: second :: third :: rest =>
    obtain ⟨hfirst, hrest⟩ := List.pairwise_cons.mp h
    have hfirst' := hfirst second (by simp)
    have hsecond := (List.pairwise_cons.mp hrest).1 third (by simp)
    have := hlow third
    have := hhigh first
    omega

/-- **An operator that comes in** binds more tightly than all that stay below it. -/
theorem Descends.cons_dropWhile {operators : List Operator} (h : Descends operators)
    (o : Operator) : Descends (o :: operators.dropWhile (·.goesBefore o)) := by
  refine List.pairwise_cons.mpr ⟨?_, h.sublist (List.dropWhile_sublist _)⟩
  induction operators with
  | nil => exact List.forall_mem_nil _
  | cons q operators ih =>
    obtain ⟨hq, hrest⟩ := List.pairwise_cons.mp h
    rw [List.dropWhile_cons]
    split_ifs with hgoes
    · exact ih hrest
    · -- the first one that stays is looser, and those below it are looser still
      rw [Operator.goesBefore_iff, Nat.not_le] at hgoes
      intro q' hq'
      rcases List.mem_cons.mp hq' with rfl | hq'
      · exact hgoes
      · exact Nat.lt_trans (hq q' hq') hgoes

namespace Yard

variable {yard last : Yard}

/-- On every siding the precedence goes up from the bottom to the top. -/
def Ascending (yard : Yard) : Prop := ∀ siding ∈ yard.siding :: yard.enclosing, Descends siding

theorem ascending_empty : Ascending {} := by
  intro siding hsiding
  rw [List.mem_singleton.mp hsiding]
  exact List.Pairwise.nil

/-- **One token** keeps it so. -/
theorem ascending_step {next : Yard} {t : Token} (hyard : yard.Ascending)
    (h : yard.step t = .ok next) : next.Ascending := by
  obtain ⟨hsiding, henclosing⟩ := List.forall_mem_cons.mp hyard
  cases t with
  | num text =>
    obtain rfl := Except.ok.inj h
    exact hyard
  | op o =>
    obtain rfl := Except.ok.inj h
    exact List.forall_mem_cons.mpr ⟨hsiding.cons_dropWhile o, henclosing⟩
  | lparen =>
    obtain rfl := Except.ok.inj h
    exact List.forall_mem_cons.mpr ⟨List.Pairwise.nil, hyard⟩
  | rparen =>
    obtain ⟨outer, enclosing, hlevels, rfl⟩ := step_rparen_eq_ok_iff.mp h
    rw [hlevels] at henclosing
    exact henclosing

/-- **A list of tokens** keeps it so. -/
theorem ascending_foldlM {tokens : List Token} (h : tokens.foldlM step yard = .ok last) :
    yard.Ascending → last.Ascending := by
  induction h using foldlM_ok_induction with
  | nil => exact id
  | cons hstep _ ih => exact fun hyard => ih (ascending_step hyard hstep)

/-! ## 4. What stands on the stack -/

theorem mem_stack {t : Token} (h : t ∈ yard.stack) : t = .lparen ∨ ∃ o, t = .op o := by
  have hop : ∀ {siding : List Operator}, t ∈ siding.map Token.op → ∃ o, t = .op o := by
    intro siding ht
    obtain ⟨o, -, rfl⟩ := List.mem_map.mp ht
    exact ⟨o, rfl⟩
  rcases List.mem_append.mp h with ht | ht
  · exact Or.inr (hop ht)
  · obtain ⟨siding, -, ht⟩ := List.mem_flatMap.mp ht
    exact (List.mem_cons.mp ht).imp_right hop

/-- **A parenthesis for each level** around the current one. -/
theorem count_stack (yard : Yard) : yard.stack.count .lparen = yard.enclosing.length := by
  have hop : ∀ siding : List Operator, (siding.map Token.op).count .lparen = 0 := by
    intro siding
    refine List.count_eq_zero.mpr fun ht => ?_
    obtain ⟨o, -, ho⟩ := List.mem_map.mp ht
    exact absurd ho nofun
  have hopened : ∀ enclosing : List (List Operator),
      (opened enclosing).count .lparen = enclosing.length := by
    intro enclosing
    induction enclosing with
    | nil => rfl
    | cons outer enclosing ih =>
      rw [opened_cons, List.count_cons_self, List.count_append, hop, ih, Nat.zero_add,
        List.length_cons]
  rw [stack, List.count_append, hop, hopened, Nat.zero_add]

/-- **Two tokens more for each level** than there are parentheses, at most. -/
theorem length_stack_le (h : yard.Ascending) :
    yard.stack.length ≤ 3 * yard.enclosing.length + 2 := by
  have hopened : ∀ enclosing : List (List Operator), (∀ siding ∈ enclosing, Descends siding) →
      (opened enclosing).length ≤ 3 * enclosing.length := by
    intro enclosing henclosing
    induction enclosing with
    | nil => exact Nat.le_refl 0
    | cons outer enclosing ih =>
      obtain ⟨houter, hrest⟩ := List.forall_mem_cons.mp henclosing
      have := houter.length_le
      have := ih hrest
      rw [opened_cons, List.length_cons, List.length_append, List.length_map, List.length_cons]
      omega
  obtain ⟨hsiding, henclosing⟩ := List.forall_mem_cons.mp h
  have := hsiding.length_le
  have := hopened yard.enclosing henclosing
  rw [stack, List.length_append, List.length_map]
  omega

end Yard

/-- A piece without `x` of a list that is cut at an `x` stands on one side of the cut. -/
theorem infix_append_cons {α : Type} {x : α} {piece above below : List α} (hx : x ∉ piece)
    (h : piece <:+: above ++ x :: below) : piece <:+: above ∨ piece <:+: below := by
  have hbegin : ∀ {front : List α}, front ⊆ piece → front <+: x :: below → front = [] := by
    intro front hsub hfront
    rcases List.prefix_cons_iff.mp hfront with hnil | ⟨rest, rfl, -⟩
    · exact hnil
    · exact absurd (hsub List.mem_cons_self) hx
  rcases List.infix_append_iff.mp h with habove | hbelow | ⟨front, back, rfl, hfront, hback⟩
  · exact Or.inl habove
  · rcases List.infix_cons_iff.mp hbelow with hprefix | hinfix
    · rw [hbegin (List.Subset.refl _) hprefix]
      exact Or.inl List.nil_infix
    · exact Or.inr hinfix
  · obtain rfl := hbegin (List.subset_append_right _ _) hback
    rw [List.append_nil]
    exact Or.inl hfront.isInfix

namespace Yard

/-- **Operators with no parenthesis between them** wait on one siding. -/
theorem exists_siding_of_infix {segment siding : List Operator} {enclosing : List (List Operator)}
    (h : segment.map Token.op <:+: siding.map Token.op ++ opened enclosing) :
    ∃ level ∈ siding :: enclosing, segment <:+: level := by
  have hop : Function.Injective (List.map Token.op) :=
    List.map_injective_iff.mpr fun _ _ h => Token.op.inj h
  induction enclosing generalizing siding with
  | nil =>
    rw [opened, List.flatMap_nil, List.append_nil] at h
    obtain ⟨level, hlevel, hsegment⟩ := List.infix_map_iff.mp h
    rw [hop hsegment]
    exact ⟨siding, List.mem_singleton_self siding, hlevel⟩
  | cons outer enclosing ih =>
    have hlparen : Token.lparen ∉ segment.map Token.op := by simp
    rw [opened_cons] at h
    rcases infix_append_cons hlparen h with hsiding | haround
    · obtain ⟨level, hlevel, hsegment⟩ := List.infix_map_iff.mp hsiding
      rw [hop hsegment]
      exact ⟨siding, List.mem_cons_self, hlevel⟩
    · obtain ⟨level, hlevel, hsegment⟩ := ih haround
      exact ⟨level, List.mem_cons_of_mem siding hlevel, hsegment⟩

/-- **Between two parentheses the precedence goes up** from the bottom of the stack to the top. -/
theorem descends_of_infix {yard : Yard} (h : yard.Ascending) {segment : List Operator}
    (hsegment : segment.map Token.op <:+: yard.stack) : Descends segment := by
  obtain ⟨level, hlevel, hinfix⟩ := exists_siding_of_infix hsegment
  exact (h level hlevel).sublist hinfix.sublist

end Yard

/-! ## 5. What goes out -/

namespace Yard

variable {yard next : Yard}

/-- **One token** goes out itself, if it is a number, or sends out operators from the top of the
stack, in their order. -/
theorem exists_drained {t : Token} (h : yard.step t = .ok next) :
    (∃ text, t = .num text ∧ next.output = t :: yard.output) ∨
      ∃ drained : List Operator, drained.map Token.op <+: yard.stack ∧
        next.output = release drained yard.output := by
  cases t with
  | num text =>
    obtain rfl := Except.ok.inj h
    exact Or.inl ⟨text, rfl, rfl⟩
  | op o =>
    obtain rfl := Except.ok.inj h
    have htop : yard.siding.takeWhile (·.goesBefore o) <+: yard.siding := List.takeWhile_prefix _
    exact Or.inr ⟨_, (htop.map Token.op).trans (List.prefix_append _ _), rfl⟩
  | lparen =>
    obtain rfl := Except.ok.inj h
    exact Or.inr ⟨[], List.nil_prefix, rfl⟩
  | rparen =>
    obtain ⟨outer, enclosing, -, rfl⟩ := step_rparen_eq_ok_iff.mp h
    exact Or.inr ⟨yard.siding, List.prefix_append _ _, rfl⟩

/-- At the end all of the stack goes out, which holds operators alone. -/
theorem drained_of_finish {p : List Token} (h : yard.finish = .ok p) :
    yard.stack = yard.siding.map Token.op ∧
      p = yard.output.reverse ++ yard.siding.map Token.op := by
  obtain ⟨henclosing, rfl⟩ := finish_eq_ok_iff.mp h
  simp [stack, opened, release, henclosing]

end Yard

/-- **The stack between two tokens.**  Sorting can be done with one stack.  Whatever tokens have
come in, there is nothing on it but operators and the parentheses that are open, and between
two of these, below the first and above the last, the precedence goes up from operator to
operator.  So the stack has no more than two tokens for each level, with a parenthesis for each
but the outermost, and every run of operators that goes out goes down in precedence. -/
theorem stack_ascends_between_parentheses {tokens : List Token} {s : OneStack}
    (h : tokens.foldlM OneStack.step {} = .ok s) :
    (∀ t ∈ s.stack, t = .lparen ∨ ∃ o, t = .op o) ∧
    s.stack.count .lparen + tokens.count .rparen = tokens.count .lparen ∧
    (∀ segment : List Operator, segment.map Token.op <:+: s.stack → Descends segment) ∧
    s.stack.length ≤ 3 * s.stack.count .lparen + 2 ∧
    (∀ t next, s.step t = .ok next →
      (∃ text, t = .num text ∧ next.output = t :: s.output) ∨
        ∃ drained : List Operator, drained.map Token.op <+: s.stack ∧ Descends drained ∧
          next.output = (drained.map Token.op).reverse ++ s.output) ∧
    (∀ p, s.finish = .ok p → ∃ drained : List Operator, s.stack = drained.map Token.op ∧
      Descends drained ∧ p = s.output.reverse ++ drained.map Token.op) ∧
    Postfix.ofInfix tokens = s.finish := by
  obtain ⟨yard, hrun, rfl⟩ := map_eq_ok_iff.mp ((OneStack.foldlM_oneStack tokens {}).symm.trans h)
  have hascending := Yard.ascending_foldlM hrun Yard.ascending_empty
  have hdepth := Yard.depth_foldlM hrun
  refine ⟨fun t => Yard.mem_stack, ?_, fun segment => Yard.descends_of_infix hascending, ?_, ?_,
    ?_, ?_⟩
  · exact (congrArg (· + _) yard.count_stack).trans (hdepth.trans (Nat.zero_add _))
  · exact (Yard.length_stack_le hascending).trans_eq (by rw [← yard.count_stack]; rfl)
  · intro t next hstep
    obtain ⟨after, hafter, rfl⟩ :=
      map_eq_ok_iff.mp ((OneStack.step_oneStack yard t).symm.trans hstep)
    refine (Yard.exists_drained hafter).imp_right ?_
    rintro ⟨drained, htop, hout⟩
    exact ⟨drained, htop, Yard.descends_of_infix hascending htop.isInfix, hout⟩
  · intro p hfinish
    obtain ⟨hstack, hp⟩ :=
      Yard.drained_of_finish ((OneStack.finish_oneStack yard).symm.trans hfinish)
    exact ⟨yard.siding, hstack, hascending _ List.mem_cons_self, hp⟩
  · rw [OneStack.ofInfix_eq_oneStack, h, ok_bind]

/-- Behind `1+2*(3-4*` one parenthesis is open, and the stack holds five tokens, the most it
can. -/
theorem stack_ascends_in_nested_product :
    ∃ s : OneStack,
      [Token.num "1", .op .plus, .num "2", .op .times, .lparen, .num "3", .op .minus, .num "4",
        .op .times].foldlM OneStack.step {} = .ok s ∧
      s.stack = [.op .times, .op .minus, .lparen, .op .times, .op .plus] ∧
      s.stack.count .lparen = 1 ∧ s.stack.length = 3 * 1 + 2 ∧
      Descends [.times, .minus] := by
  obtain ⟨s, hs, hstack⟩ : ∃ s : OneStack,
      [Token.num "1", .op .plus, .num "2", .op .times, .lparen, .num "3", .op .minus, .num "4",
        .op .times].foldlM OneStack.step {} = .ok s ∧
      s.stack = [.op .times, .op .minus, .lparen, .op .times, .op .plus] := ⟨_, rfl, rfl⟩
  obtain ⟨-, hdepth, hascends, -⟩ := stack_ascends_between_parentheses hs
  refine ⟨s, hs, hstack, ?_, by rw [hstack]; rfl, hascends _ ?_⟩
  · exact hdepth
  · exact ⟨[], [.lparen, .op .times, .op .plus], hstack.symm⟩

end PostfixCalculator
