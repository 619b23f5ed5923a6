/-!
# Blank characters

The characters that separate words in assembly text are those with the Unicode
property `White_Space`. `trim` removes them from both ends of a text.
-/

namespace IssueTiming.Text

/-- The code points with the property `White_Space`, as ascending closed ranges. -/
def blankRanges : List (Nat × Nat) :=
  [(0x09, 0x0D), (0x20, 0x20), (0x85, 0x85), (0xA0, 0xA0), (0x1680, 0x1680),
    (0x2000, 0x200A), (0x2028, 0x2029), (0x202F, 0x202F), (0x205F, 0x205F),
    (0x3000, 0x3000)]

/-- Whether a character has the property `White_Space`. -/
def isBlank (character : Char) : Bool :=
  blankRanges.any fun (low, high) =>
    decide (low ≤ character.toNat) && decide (character.toNat ≤ high)

example : isBlank ' ' = true ∧ isBlank '\t' = true ∧ isBlank '\u00a0' = true := by decide

/-- A byte-order mark and a zero-width space are not blank. -/
example : isBlank '\ufeff' = false ∧ isBlank '\u200b' = false := by decide

/-- The property has twenty-five members. -/
example : (blankRanges.map fun (low, high) => high + 1 - low).sum = 25 := by decide

def trimLeft (text : List Char) : List Char :=
  text.dropWhile isBlank

def trimRight (text : List Char) : List Char :=
  (text.reverse.dropWhile isBlank).reverse

/-- The text without the blanks at either end. -/
def trim (text : List Char) : List Char :=
  trimRight (trimLeft text)

example : trim [' ', 'a', ' ', 'b', '\t'] = ['a', ' ', 'b'] := by decide

end IssueTiming.Text
