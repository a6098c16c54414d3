/-
# White space

A property of characters is a list of closed ranges of code points, ascending and apart: no
two overlap, and none could be joined to the next (`Ranges`).  White space is the Unicode
property `White_Space`; it leaves the words of a text.
-/

namespace PostfixCalculator.Text

/-! ## 1. Ranges of code points -/

/-- The ranges ascend, with a gap between neighbours. -/
def ascending : List (Nat × Nat) → Bool
  | [] => true
  | [r] => decide (r.1 ≤ r.2)
  | r :: s :: rest => decide (r.1 ≤ r.2) && decide (r.2 + 1 < s.1) && ascending (s :: rest)

/-- A property of characters. -/
structure Ranges where
  bounds : List (Nat × Nat)
  ascends : ascending bounds = true

namespace Ranges

/-- Does the code point of `c` lie in one of the ranges, ends included? -/
def contains (ranges : Ranges) (c : Char) : Bool :=
  ranges.bounds.any fun r => r.1 ≤ c.toNat && c.toNat ≤ r.2

theorem contains_iff {ranges : Ranges} {c : Char} :
    ranges.contains c = true ↔ ∃ r ∈ ranges.bounds, r.1 ≤ c.toNat ∧ c.toNat ≤ r.2 := by
  simp [contains]

end Ranges

/-! ## 2. The property -/

/-- The code points with the property `White_Space`. -/
def blankRanges : Ranges where
  bounds :=
    [(0x0009, 0x000D), (0x0020, 0x0020), (0x0085, 0x0085), (0x00A0, 0x00A0), (0x1680, 0x1680),
     (0x2000, 0x200A), (0x2028, 0x2029), (0x202F, 0x202F), (0x205F, 0x205F), (0x3000, 0x3000)]
  ascends := by decide

/-- White space. -/
def isBlank (c : Char) : Bool := blankRanges.contains c

/-! ## 3. Words -/

/-- The longest pieces of a text without white space. -/
def words (cs : List Char) : List (List Char) :=
  (cs.splitOnP isBlank).filter (! ·.isEmpty)

end PostfixCalculator.Text
