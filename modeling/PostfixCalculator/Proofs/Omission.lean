/-
# Operands that are left out

There is no sign in the infix grammar.  But the first operand of an expression may be left
out, and so may the first one behind an opening parenthesis, as in `-(-5)` or `2*(-3)`.  The
tolerant policy reads a zero there in a way of its own: where an operator finds one value only
on the stack.  That is what it would find with all the zeros at the bottom of the stack, and
not at the places where they are missing.

* The postfix form lacks the zeros that the infix list lacks, and with all of them in front it
  is in balance (`Postfix.ofInfix_of_padded`, `Postfix.checkBalance_of_padded`).  So these are
  just the zeros that the tolerant policy supplies (`Postfix.evaluate_zeros_append`).
* The yard sends nothing out before the first number.  The zeros for operands that are omitted
  before it come out in front, in any case (`Yard.foldlM_completed`).

So an operand that is omitted before the first number is read as zero.  An operator that lacks
its operand further on finds a number on the stack, one that belongs elsewhere: `2*(-3)`
subtracts 3 from 2 (`number_in_front_is_taken`).
-/
import PostfixCalculator.Proofs.Postfix.Account
import PostfixCalculator.Proofs.Postfix.Padding
import PostfixCalculator.Proofs.Postfix.Zeros
import PostfixCalculator.Proofs.Sentence

namespace PostfixCalculator

namespace Token

/-! ## 1. Omitted operands -/

/-- Does a level begin behind this token?  Behind none the outermost one does. -/
def levelBegins : Option Token → Bool
  | none | some lparen => true
  | some _ => false

/-- The tokens that come behind this one, with a zero for each operand that is omitted. -/
def completedBehind : Option Token → List Token → List Token
  | _, [] => []
  | previous, t :: rest =>
    if levelBegins previous && t.isOperator then num "0" :: t :: completedBehind (some t) rest
    else t :: completedBehind (some t) rest

/-- The tokens with a zero for each operand that is omitted. -/
def completed (tokens : List Token) : List Token := completedBehind none tokens

/-- No number stands anywhere before an operand that is omitted. -/
def OmitsInFront (tokens : List Token) : Prop :=
  ∀ before o after, tokens = before ++ op o :: after → levelBegins before.getLast? = true →
    ∀ t ∈ before, t.isNumber = false

theorem completedBehind_cons {previous : Option Token} {t : Token}
    (h : levelBegins previous = true → t.isOperator = false) (rest : List Token) :
    completedBehind previous (t :: rest) = t :: completedBehind (some t) rest := by
  rw [completedBehind, if_neg]
  simpa using h

theorem completedBehind_op {previous : Option Token} (h : levelBegins previous = true)
    (o : Operator) (rest : List Token) :
    completedBehind previous (op o :: rest) =
      num "0" :: op o :: completedBehind (some (op o)) rest := by
  rw [completedBehind, h]
  rfl

/-- A list is completed with zeros and with nothing else. -/
theorem completedBehind_padded (tokens : List Token) : ∀ previous : Option Token,
    ∃ k, Padded k tokens (completedBehind previous tokens) := by
  induction tokens with
  | nil => exact fun _ => ⟨0, .nil⟩
  | cons t rest ih =>
    intro previous
    obtain ⟨k, hpadded⟩ := ih (some t)
    rw [completedBehind]
    split
    · exact ⟨k + 1, (hpadded.keep t).zero⟩
    · exact ⟨k, hpadded.keep t⟩

/-- **Behind a number nothing is omitted**, if all omissions are in front. -/
theorem completedBehind_of_number (rest : List Token) :
    ∀ before : List Token, OmitsInFront (before ++ rest) → (∃ t ∈ before, t.isNumber = true) →
      completedBehind before.getLast? rest = rest := by
  induction rest with
  | nil => exact fun _ _ _ => rfl
  | cons t rest ih =>
    intro before h hnumber
    have hkept : levelBegins before.getLast? = true → t.isOperator = false := by
      intro hlevel
      cases t with
      | op o =>
        obtain ⟨s, hs, hsnumber⟩ := hnumber
        rw [h before o rest rfl hlevel s hs] at hsnumber
        exact absurd hsnumber nofun
      | num text => rfl
      | lparen => rfl
      | rparen => rfl
    have hrest := ih (before ++ [t]) (by rwa [List.append_assoc])
      (hnumber.imp fun s hs => ⟨List.mem_append_left [t] hs.1, hs.2⟩)
    rw [List.getLast?_concat] at hrest
    rw [completedBehind_cons hkept, hrest]

/-! ## 2. Turns -/

/-- Behind a token the turns go on, whether or not a zero is put before it. -/
theorem alternate_of_completedBehind_cons {due : Bool} {previous : Option Token} {t : Token}
    {rest : List Token} (h : alternate due (completedBehind previous (t :: rest)) = true) :
    alternate (!t.endsOperand) (completedBehind (some t) rest) = true := by
  rw [completedBehind] at h
  split at h
  · exact (alternate_cons.mp (alternate_cons.mp h).2).2
  · exact (alternate_cons.mp h).2

/-- What takes turns when it is completed has no operands side by side. -/
theorem operandsApart_of_alternate_completedBehind {tokens : List Token} :
    ∀ {due : Bool} {previous : Option Token},
      alternate due (completedBehind previous tokens) = true → OperandsApart tokens := by
  induction tokens with
  | nil => exact fun _ => List.isChain_nil
  | cons t rest ih =>
    intro due previous h
    have hrest := alternate_of_completedBehind_cons h
    refine List.isChain_cons.mpr ⟨?_, ih hrest⟩
    intro next hnext hend
    obtain ⟨more, rfl⟩ : ∃ more, rest = next :: more := List.head?_eq_some_iff.mp hnext
    cases hoperator : next.isOperator with
    | true => exact startsOperand_of_isOperator hoperator
    | false =>
      rw [completedBehind_cons (fun _ => hoperator), hend] at hrest
      exact (alternate_cons.mp hrest).1

end Token

/-! ## 3. Sorting -/

namespace Yard

/-- A number is the first token to go out, as long as none has. -/
theorem step_num_of_output {yard : Yard} (h : yard.output = []) (text : String) :
    yard.step (.num text) = .ok (yard.after [.num text]) := by
  simp [step, after, h]

/-- **The zeros in front come out first.**  Up to its first number a list sends nothing out. -/
theorem foldlM_completed (tokens : List Token) :
    ∀ (previous : Option Token) (yard : Yard),
      Token.alternate true (Token.completedBehind previous tokens) = true →
      (Token.levelBegins previous = true → yard.siding = []) → yard.output = [] →
      ∃ (k : Nat) (text : String) (front more : List Token) (middle : Yard),
        tokens = front ++ .num text :: more ∧
          tokens.foldlM step yard = (·.after [.num text]) <$> more.foldlM step middle ∧
          (Token.completedBehind previous tokens).foldlM step yard =
            (·.after (List.replicate k (.num "0") ++ [.num text])) <$>
              (Token.completedBehind (some (.num text)) more).foldlM step middle := by
  induction tokens with
  | nil => exact fun _ _ hturns => absurd hturns Bool.false_ne_true
  | cons t rest ih =>
    intro previous yard hturns hsiding houtput
    have hnext := Token.alternate_of_completedBehind_cons hturns
    cases t with
    | num text =>
      refine ⟨0, text, [], rest, yard, rfl, ?_, ?_⟩
      · rw [List.foldlM_cons, step_num_of_output houtput, ok_bind, foldlM_after]
      · rw [Token.completedBehind_cons (fun _ => rfl), List.foldlM_cons,
          step_num_of_output houtput, ok_bind, foldlM_after]
        rfl
    | op o =>
      cases hlevel : Token.levelBegins previous with
      | false =>
        rw [Token.completedBehind_cons (by simp [hlevel])] at hturns
        exact absurd (Token.alternate_cons.mp hturns).1 Bool.false_ne_true
      | true =>
        -- nothing waits at the beginning of a level, so that the operator sends nothing out
        have hwait : yard.step (.op o) = .ok { yard with siding := [o] } := by
          simp [step, hsiding hlevel]
        obtain ⟨k, text, front, more, middle, rfl, hrun, hcompleted⟩ :=
          ih (some (.op o)) { yard with siding := [o] } hnext
            (fun hbegins => absurd hbegins Bool.false_ne_true) houtput
        refine ⟨k + 1, text, .op o :: front, more, middle, rfl, ?_, ?_⟩
        · rw [List.foldlM_cons, hwait, ok_bind, hrun]
        · rw [Token.completedBehind_op hlevel, List.foldlM_cons, step_num_of_output houtput,
            ok_bind, foldlM_after, List.foldlM_cons, hwait, ok_bind, hcompleted]
          cases (Token.completedBehind (some (.num text)) more).foldlM step middle with
          | error e => rfl
          | ok last => exact congrArg Except.ok (after_after last _ _)
    | lparen =>
      obtain ⟨k, text, front, more, middle, rfl, hrun, hcompleted⟩ :=
        ih (some .lparen) ⟨yard.output, [], yard.siding :: yard.enclosing⟩ hnext (fun _ => rfl)
          houtput
      refine ⟨k, text, .lparen :: front, more, middle, rfl, hrun, ?_⟩
      rw [Token.completedBehind_cons (fun _ => rfl)]
      exact hcompleted
    | rparen =>
      -- an operand is due up to the first number
      rw [Token.completedBehind_cons (fun _ => rfl)] at hturns
      exact absurd (Token.alternate_cons.mp hturns).1 Bool.false_ne_true

end Yard

/-- The first number of a list comes out first.  If nothing is omitted behind it, the completed
list comes out as this one does, with the zeros in front. -/
theorem Postfix.ofInfix_of_completed {tokens : List Token}
    (h : Token.alternate true (Token.completed tokens) = true) :
    ∃ (k : Nat) (text : String) (outcome : Except CalcError (List Token)),
      ofInfix tokens = (.num text :: ·) <$> outcome ∧
        (Token.OmitsInFront tokens → ofInfix (Token.completed tokens) =
          (List.replicate k (.num "0") ++ [.num text] ++ ·) <$> outcome) := by
  obtain ⟨k, text, front, more, middle, rfl, hrun, hcompleted⟩ :=
    Yard.foldlM_completed tokens none {} h (fun _ => rfl) rfl
  refine ⟨k, text, more.foldlM Yard.step middle >>= Yard.finish, ?_, ?_⟩
  · rw [ofInfix, hrun, Yard.bind_finish_after]
    rfl
  · intro homits
    have hkept := Token.completedBehind_of_number more (front ++ [.num text])
      (by rwa [List.append_assoc]) ⟨.num text, by simp, rfl⟩
    rw [List.getLast?_concat] at hkept
    rw [ofInfix, Token.completed, hcompleted, Yard.bind_finish_after, hkept]

/-! ## 4. Values -/

/-- Both arithmetics read the digit zero as their zero. -/
theorem Arithmetic.ofText_zero (a : Arithmetic) :
    (Number.ofText "0" : Except CalcError a.Domain) = .ok Number.zero := by
  cases a with
  | floating => rfl
  | exact => rfl

/-- The tolerant policy supplies the zeros that a list has in front, if it is in balance. -/
theorem answer_zeros_append {settings : Settings} {k : Nat} {text : String} {p : List Token}
    (h : Postfix.checkBalance (List.replicate k (.num "0") ++ .num text :: p) = .ok ()) :
    answer { settings with policy := .tolerant } (List.replicate k (.num "0") ++ .num text :: p) =
      answer { settings with policy := .tolerant } (.num text :: p) := by
  have hbalance := Postfix.countP_of_balanced h
  have hnumbers : (List.replicate k (Token.num "0") ++ .num text :: p).countP Token.isNumber =
      k + (p.countP Token.isNumber + 1) := by
    rw [List.countP_append, List.countP_replicate, Token.countP_cons]
    rfl
  have hoperators : (List.replicate k (Token.num "0") ++ .num text :: p).countP Token.isOperator =
      0 + p.countP Token.isOperator := by
    rw [List.countP_append, List.countP_replicate, Token.countP_cons]
    rfl
  rw [hnumbers, hoperators, Nat.zero_add] at hbalance
  rw [answer_eq, answer_eq]
  exact congrArg (Answer.ofNumber settings.decimals <$> ·)
    (Postfix.evaluate_zeros_append settings.arithmetic.ofText_zero hbalance.le)

/-- **An omitted operand is read as a zero at the bottom of the stack.**  Under the tolerant
policy a text that leaves out operands has the answer, or the error, that the strict policy
gives to its postfix form with a zero in front for each of them.  If no number stands before
an operand that is left out, that is the answer of every text that writes the zeros at their
places. -/
theorem omitted_operands_are_zero (settings : Settings)
    (layout completed : Layout settings.lexicon) {e : Expr}
    (hcompleted : completed.tokens = Token.completed layout.tokens)
    (h : Writes completed.tokens e) :
    (∃ p, Postfix.ofInfix layout.tokens = .ok p ∧
      Result.toAnswer <$> calculate { settings with policy := .tolerant } layout.text =
        answer { settings with policy := .strict }
          (List.replicate (completed.tokens.length - layout.tokens.length) (.num "0") ++ p)) ∧
    (Token.OmitsInFront layout.tokens →
      Result.toAnswer <$> calculate { settings with policy := .tolerant } layout.text =
        Result.toAnswer <$> calculate { settings with policy := .tolerant } completed.text) := by
  have hfull :
      Result.toAnswer <$> calculate { settings with policy := .tolerant } completed.text =
        e.answer { settings with policy := .tolerant } :=
    toAnswer_calculate_of_writes { settings with policy := .tolerant } completed h
  rw [hcompleted] at h ⊢
  obtain ⟨k, hpadded⟩ := Token.completedBehind_padded layout.tokens none
  obtain ⟨p, hsort, hform⟩ := Postfix.ofInfix_of_padded hpadded (Postfix.ofInfix_of_writes h)
  obtain ⟨k', text, outcome, hplain, hfront⟩ := Postfix.ofInfix_of_completed h.alternate
  obtain ⟨rest, rfl, rfl⟩ := map_eq_ok_iff.mp (hplain.symm.trans hsort)
  have hapart : layout.Apart :=
    Layout.apart_of_operandsApart (Token.operandsApart_of_alternate_completedBehind h.alternate)
  have hp : Postfix.ofExpression settings.lexicon layout.text = .ok (.num text :: rest) :=
    Layout.ofExpression_text hapart hsort
  have hshort : Result.toAnswer <$> calculate { settings with policy := .tolerant } layout.text =
      answer { settings with policy := .tolerant } (.num text :: rest) := toAnswer_calculate hp
  refine ⟨⟨_, hsort, ?_⟩, ?_⟩
  · have hbalance := Postfix.checkBalance_of_padded hform (Postfix.checkBalance_postorder e)
    rw [Token.completed, hpadded.length_eq, Nat.add_sub_cancel_left, hshort,
      answer_of_balanced hbalance, answer_zeros_append hbalance]
  · intro homits
    have hsorted : Except.ok (List.replicate k' (.num "0") ++ [.num text] ++ rest) =
        (Except.ok e.postorder : Except CalcError (List Token)) :=
      (hfront homits).symm.trans (Postfix.ofInfix_of_writes h)
    have hpostorder : List.replicate k' (.num "0") ++ .num text :: rest = e.postorder :=
      (List.append_assoc _ [.num text] rest).symm.trans (Except.ok.inj hsorted)
    have hbalance := Postfix.checkBalance_postorder e
    have hanswer := Expr.answer_postorder { settings with policy := .tolerant } e
    rw [← hpostorder] at hbalance hanswer
    rw [hshort, hfull, ← hanswer, answer_zeros_append hbalance]

/-- `-(-5)` is `0-(0-5)`, and `0 0 5 - -` in postfix order. -/
theorem omitted_operands_are_zero_twice :
    Token.completed [.op .minus, .lparen, .op .minus, .num "5", .rparen] =
        [.num "0", .op .minus, .lparen, .num "0", .op .minus, .num "5", .rparen] ∧
      Token.OmitsInFront [.op .minus, .lparen, .op .minus, .num "5", .rparen] ∧
      Result.toAnswer <$> calculate {} "-(-5)" =
        answer { policy := .strict } [.num "0", .num "0", .num "5", .op .minus, .op .minus] ∧
      Result.toAnswer <$> calculate {} "-(-5)" = Result.toAnswer <$> calculate {} "0-(0-5)" := by
  have hcompleted : Token.completed [.op .minus, .lparen, .op .minus, .num "5", .rparen] =
      [.num "0", .op .minus, .lparen, .num "0", .op .minus, .num "5", .rparen] := rfl
  have hfront : Token.OmitsInFront [.op .minus, .lparen, .op .minus, .num "5", .rparen] := by
    intro before o after h _
    have hbefore : before = [] ∨ before = [.op .minus, .lparen] := by
      simp [List.cons_eq_append_iff] at h
      exact h.imp And.left And.left
    rcases hbefore with rfl | rfl
    · simp
    · decide
  have hnegative : Writes [.num "0", .op .minus, .num "5"]
      (.binary .minus (.literal "0") (.literal "5")) :=
    Derives.binary .minus (Derives.num "0").lower.lower (Derives.num "5").lower
  have htree : Writes [.num "0", .op .minus, .lparen, .num "0", .op .minus, .num "5", .rparen]
      (.binary .minus (.literal "0") (.binary .minus (.literal "0") (.literal "5"))) :=
    Derives.binary .minus (Derives.num "0").lower.lower (Derives.paren hnegative).lower
  have hshort : ∀ t ∈ [Token.op .minus, .lparen, .op .minus, .num "5", .rparen], t.Writable := by
    simp [Token.Writable, Token.inNumber]
  have hlong : ∀ t ∈ [Token.num "0", .op .minus, .lparen, .num "0", .op .minus, .num "5",
      .rparen], t.Writable := by
    simp [Token.Writable, Token.inNumber]
  obtain ⟨⟨p, hsort, hzeros⟩, halike⟩ :=
    omitted_operands_are_zero {} (Layout.tight _ hshort) (Layout.tight _ hlong)
      (by rw [Layout.tokens_tight, Layout.tokens_tight, hcompleted])
      (by rwa [Layout.tokens_tight])
  obtain rfl : [.num "5", .op .minus, .op .minus] = p := Except.ok.inj hsort
  exact ⟨hcompleted, hfront, hzeros, halike (by rwa [Layout.tokens_tight])⟩

/-- **Behind a number the operator takes that number.**  `2*(-3)` is not calculated as
`2*(0-3)` is. -/
theorem number_in_front_is_taken :
    (Result.toAnswer <$> calculate {} "2*(-3)").toOption.map (·.display) = some "=0.00" ∧
      (Result.toAnswer <$> calculate {} "2*(0-3)").toOption.map (·.display) = some "=-6.00" ∧
      ¬ ∀ (settings : Settings) (layout completed : Layout settings.lexicon) (e : Expr),
        completed.tokens = Token.completed layout.tokens → Writes completed.tokens e →
          Result.toAnswer <$> calculate { settings with policy := .tolerant } layout.text =
            Result.toAnswer <$>
              calculate { settings with policy := .tolerant } completed.text := by
  have hshown : (Result.toAnswer <$> calculate {} "2*(-3)").toOption.map (·.display) =
      some "=0.00" := by decide +kernel
  have hmeant : (Result.toAnswer <$> calculate {} "2*(0-3)").toOption.map (·.display) =
      some "=-6.00" := by decide +kernel
  refine ⟨hshown, hmeant, ?_⟩
  intro h
  have hdifference : Writes [.num "0", .op .minus, .num "3"]
      (.binary .minus (.literal "0") (.literal "3")) :=
    Derives.binary .minus (Derives.num "0").lower.lower (Derives.num "3").lower
  have htree : Writes [.num "2", .op .times, .lparen, .num "0", .op .minus, .num "3", .rparen]
      (.binary .times (.literal "2") (.binary .minus (.literal "0") (.literal "3"))) :=
    (Derives.binary .times (Derives.num "2").lower (Derives.paren hdifference)).lower
  have hshort : ∀ t ∈ [Token.num "2", .op .times, .lparen, .op .minus, .num "3", .rparen],
      t.Writable := by
    simp [Token.Writable, Token.inNumber]
  have hlong : ∀ t ∈ [Token.num "2", .op .times, .lparen, .num "0", .op .minus, .num "3",
      .rparen], t.Writable := by
    simp [Token.Writable, Token.inNumber]
  have halike : Result.toAnswer <$> calculate {} "2*(-3)" =
      Result.toAnswer <$> calculate {} "2*(0-3)" :=
    h {} (Layout.tight _ hshort) (Layout.tight _ hlong) _
      (by rw [Layout.tokens_tight, Layout.tokens_tight]; rfl) (by rwa [Layout.tokens_tight])
  rw [halike, hmeant] at hshown
  exact absurd hshown (by decide)

end PostfixCalculator
