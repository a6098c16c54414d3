/-
# Settings

A calculation depends on three choices of rule and on two bounds.

* The lexicon says what becomes of a character that no token uses.
* The policy says whether an operator may go without its left operand.
* The arithmetic is binary64 or exact.
* `maxLength` bounds what can be typed, `decimals` is the number of places shown.

A change of one setting is a value of its own (`Setting`), so that a sequence of changes can
be part of a history.
-/

namespace PostfixCalculator

/-! ## 1. The three choices -/

/-- What becomes of a character that belongs to no token. -/
inductive Lexicon where
  /-- It is skipped. -/
  | lenient
  /-- It is refused, unless it is white space. -/
  | strict
deriving DecidableEq

/-- What becomes of an operator that finds one operand only. -/
inductive Policy where
  /-- The left operand is read as zero. -/
  | tolerant
  /-- Operands and operators are counted before anything is computed. -/
  | strict
deriving DecidableEq

/-- The numbers that an expression is computed in. -/
inductive Arithmetic where
  /-- IEEE 754 binary64, with infinities and NaN. -/
  | floating
  /-- Rational numbers, where a division by zero is an error. -/
  | exact
deriving DecidableEq

/-! ## 2. All settings -/

/-- Everything that a calculation and its display depend on, apart from the expression. -/
@[ext]
structure Settings where
  lexicon : Lexicon := .lenient
  policy : Policy := .tolerant
  arithmetic : Arithmetic := .floating
  /-- The number of characters that can be typed. -/
  maxLength : Nat := 19
  /-- The number of digits shown after the point. -/
  decimals : Nat := 2
deriving DecidableEq

namespace Settings

/-- The largest number of decimals that `withDecimals` grants. -/
def maxDecimals : Nat := 20

end Settings

/-! ## 3. Changes -/

/-- One setting with its new value. -/
inductive Setting where
  | lexicon (value : Lexicon)
  | policy (value : Policy)
  | arithmetic (value : Arithmetic)
  | maxLength (value : Nat)
  | decimals (value : Nat)
deriving DecidableEq

/-- Asks for `n` decimals and gets at most `maxDecimals`. -/
def Setting.cappedDecimals (n : Nat) : Setting := .decimals (min n Settings.maxDecimals)

/-- The settings after one change; the other four stay. -/
def Settings.set (s : Settings) : Setting → Settings
  | .lexicon value => { s with lexicon := value }
  | .policy value => { s with policy := value }
  | .arithmetic value => { s with arithmetic := value }
  | .maxLength value => { s with maxLength := value }
  | .decimals value => { s with decimals := value }

/-- The settings with `n` decimals, or with as many as are granted. -/
def Settings.withDecimals (s : Settings) (n : Nat) : Settings := s.set (.cappedDecimals n)

/-! ## 4. Laws of changes

A change is read back at its own setting and nowhere else.  So changes of two settings commute,
of two changes of one setting the later counts, and after a sequence of changes every setting
has the last value that it was given. -/

/-- Which setting a change is about. -/
inductive Setting.Field where
  | lexicon
  | policy
  | arithmetic
  | maxLength
  | decimals
deriving DecidableEq

def Setting.field : Setting → Field
  | lexicon _ => .lexicon
  | policy _ => .policy
  | arithmetic _ => .arithmetic
  | maxLength _ => .maxLength
  | decimals _ => .decimals

namespace Settings

/-- One of the settings, as the change that would make it so. -/
def get (s : Settings) : Setting.Field → Setting
  | .lexicon => .lexicon s.lexicon
  | .policy => .policy s.policy
  | .arithmetic => .arithmetic s.arithmetic
  | .maxLength => .maxLength s.maxLength
  | .decimals => .decimals s.decimals

/-- **What a change does to each setting.** -/
theorem get_set (s : Settings) (change : Setting) (field : Setting.Field) :
    (s.set change).get field = if change.field = field then change else s.get field := by
  cases change <;> cases field <;> rfl

theorem eq_of_get {s t : Settings} (h : ∀ field, s.get field = t.get field) : s = t :=
  Settings.ext (Setting.lexicon.inj (h .lexicon)) (Setting.policy.inj (h .policy))
    (Setting.arithmetic.inj (h .arithmetic)) (Setting.maxLength.inj (h .maxLength))
    (Setting.decimals.inj (h .decimals))

/-- The later of two changes of one setting counts. -/
theorem set_set (s : Settings) {first : Setting} (second : Setting)
    (h : first.field = second.field) :
    (s.set first).set second = s.set second := by
  refine eq_of_get fun field => ?_
  rw [get_set, get_set, get_set, h]
  split <;> rfl

/-- **Changes of two settings commute.** -/
theorem set_comm (s : Settings) {first : Setting} (second : Setting)
    (h : first.field ≠ second.field) :
    (s.set first).set second = (s.set second).set first := by
  refine eq_of_get fun field => ?_
  rw [get_set, get_set, get_set, get_set]
  by_cases hfirst : first.field = field
  · have hsecond : second.field ≠ field := fun hsecond => h (hfirst.trans hsecond.symm)
    rw [if_neg hsecond, if_pos hfirst, if_pos hfirst]
  · rw [if_neg hfirst, if_neg hfirst]

/-- **Every setting has the last value that it was given**, or the one that it had. -/
theorem get_foldl_set (changes : List Setting) (field : Setting.Field) :
    ∀ s : Settings, (changes.foldl set s).get field =
      (changes.filter (·.field = field)).getLast?.getD (s.get field) := by
  induction changes with
  | nil => exact fun _ => rfl
  | cons change changes ih =>
    intro s
    rw [List.foldl_cons, ih, get_set, List.filter_cons]
    by_cases h : change.field = field
    · simp [h, List.getLast?_cons]
    · simp [h]

end Settings

end PostfixCalculator
