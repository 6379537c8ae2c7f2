/-
# Byte classes

Monkey source text is scanned byte by byte and never decoded: a byte outside ASCII is a byte like
any other, and so is NUL.  This file says which bytes separate tokens, which ones spell words and
which ones spell numbers.  The three classes are disjoint (`Byte.letter_not_blank` and its
neighbours), so the order in which a scanner asks for them does not matter.

`Byte.Class` is the coarser view that the shape of a scan depends on: two texts that agree on the
class of every byte are cut into tokens at the same places.
-/

namespace MonkeyTokens

/-- A text as the scanner sees it: bytes of any value, not required to be UTF-8. -/
abbrev Bytes := List UInt8

namespace Byte

/-! ## 1. The classes -/

/-- The byte that ends a line. -/
def lineFeed : UInt8 := 10

/-- Space, tab, line feed and carriage return separate tokens and are no part of them.  Vertical
tab and form feed do not. -/
def isBlank (b : UInt8) : Bool :=
  b == 32 || b == 9 || b == 10 || b == 13

/-- The ASCII letters and the underscore spell identifiers and keywords, at the start of a word as
well as inside it.  A digit is no part of a word. -/
def isLetter (b : UInt8) : Bool :=
  (97 ≤ b && b ≤ 122) || (65 ≤ b && b ≤ 90) || b == 95

/-- The ASCII digits spell integers. -/
def isDigit (b : UInt8) : Bool :=
  48 ≤ b && b ≤ 57

/-! ## 2. No byte is in two classes -/

theorem letter_not_blank {b : UInt8} (h : isLetter b = true) : isBlank b = false := by
  simp only [isLetter, isBlank, Bool.or_eq_true, Bool.and_eq_true, decide_eq_true_eq,
    beq_iff_eq, Bool.or_eq_false_iff, beq_eq_false_iff_ne, ne_eq, UInt8.le_iff_toNat_le,
    ← UInt8.toNat_inj] at h ⊢
  simp at h ⊢
  omega

theorem digit_not_blank {b : UInt8} (h : isDigit b = true) : isBlank b = false := by
  simp only [isDigit, isBlank, Bool.and_eq_true, decide_eq_true_eq, Bool.or_eq_false_iff,
    beq_eq_false_iff_ne, ne_eq, UInt8.le_iff_toNat_le, ← UInt8.toNat_inj] at h ⊢
  simp at h ⊢
  omega

theorem digit_not_letter {b : UInt8} (h : isDigit b = true) : isLetter b = false := by
  simp only [isDigit, isLetter, Bool.and_eq_true, decide_eq_true_eq, Bool.or_eq_false_iff,
    Bool.and_eq_false_iff, decide_eq_false_iff_not, beq_eq_false_iff_ne, ne_eq,
    UInt8.le_iff_toNat_le, ← UInt8.toNat_inj] at h ⊢
  simp at h ⊢
  omega

/-! ## 3. The view a scan depends on -/

/-- What a byte means for the places where tokens begin and end, and for line numbers. -/
inductive Class where
  | lineFeed
  | blank
  | letter
  | digit
  | other
  deriving DecidableEq

/-- The class of a byte.  A line feed is told apart from the other blanks, because it alone moves
the scan to a new line. -/
def classOf (b : UInt8) : Class :=
  if b = lineFeed then .lineFeed
  else if isBlank b then .blank
  else if isLetter b then .letter
  else if isDigit b then .digit
  else .other

end Byte

end MonkeyTokens
