/-
# Quoted text

A text in double quotes on one line: quotes, backslashes and the common controls are written
with a backslash, other characters that do not print by their code point.

A character prints when a reader can see it and tell it from its neighbours.  Four kinds of
characters fail this:

* controls, format characters, private use, and separators other than the space;
* code points that are not assigned;
* combining marks;
* fillers, which are letters by category and are ignored when text is drawn.

The tables are those of Unicode 17.
-/
import PostfixCalculator.Text.Combining
import PostfixCalculator.Text.Unassigned

namespace PostfixCalculator.Text

/-! ## 1. Printable characters -/

/-- The code points of the general categories `Cc`, `Cf`, `Co`, `Zl`, `Zp` and `Zs`, the space
excepted. -/
def controlRanges : Ranges where
  bounds :=
    [(0x0000, 0x001F), (0x007F, 0x00A0), (0x00AD, 0x00AD), (0x0600, 0x0605), (0x061C, 0x061C),
     (0x06DD, 0x06DD), (0x070F, 0x070F), (0x0890, 0x0891), (0x08E2, 0x08E2), (0x1680, 0x1680),
     (0x180E, 0x180E), (0x2000, 0x200F), (0x2028, 0x202F), (0x205F, 0x2064), (0x2066, 0x206F),
     (0x3000, 0x3000), (0xE000, 0xF8FF), (0xFEFF, 0xFEFF), (0xFFF9, 0xFFFB), (0x110BD, 0x110BD),
     (0x110CD, 0x110CD), (0x13430, 0x1343F), (0x1BCA0, 0x1BCA3), (0x1D173, 0x1D17A),
     (0xE0001, 0xE0001), (0xE0020, 0xE007F), (0xF0000, 0xFFFFD), (0x100000, 0x10FFFD)]
  ascends := by decide

/-- The letters with the property `Default_Ignorable_Code_Point`: the fillers of Hangul
syllables. -/
def fillerRanges : Ranges where
  bounds := [(0x115F, 0x1160), (0x3164, 0x3164), (0xFFA0, 0xFFA0)]
  ascends := by decide

/-- Does `c` stand for itself in quoted text? -/
def isPrintable (c : Char) : Bool :=
  !(controlRanges.contains c || unassignedRanges.contains c || combiningRanges.contains c ||
    fillerRanges.contains c)

/-! ## 2. Quotes -/

/-- The code point of `c` in hexadecimal, in braces. -/
def codePoint (c : Char) : List Char :=
  ['\\', 'u', '\x7b'] ++ Nat.toDigits 16 c.toNat ++ ['\x7d']

/-- How `c` is written between quotes. -/
def escape (c : Char) : List Char :=
  match c with
  | '"' => ['\\', '"']
  | '\\' => ['\\', '\\']
  | '\t' => ['\\', 't']
  | '\n' => ['\\', 'n']
  | '\r' => ['\\', 'r']
  | '\x00' => ['\\', '0']
  | c => if isPrintable c then [c] else codePoint c

/-- The text between quotes. -/
def quote (text : String) : String :=
  String.ofList ('"' :: text.toList.flatMap escape ++ ['"'])

end PostfixCalculator.Text
