import IssueTiming.Proofs.Text.Trimming
import IssueTiming.Text.Word
import Mathlib

/-!
# Case and identifiers

A change of case touches letters only. Words that agree up to case therefore
have their blanks, points and slashes at the same places. No character of an
identifier is a blank or a separator.
-/

namespace IssueTiming.Text

/-! ## Case -/

theorem toLower_eq_iff {separator : Char} (noLetter : separator.isAlpha = false)
    (character : Char) : character.toLower = separator ↔ character = separator := by
  cases letter : character.isAlpha with
  | true =>
      have differs : ∀ other : Char, other.isAlpha = true → other ≠ separator := by
        intro other isLetter same
        subst other
        exact absurd isLetter (by simp [noLetter])
      have lowered : character.toLower.isAlpha = true := by simp [letter]
      exact iff_of_false (differs _ lowered) (differs _ letter)
  | false =>
      have small : ¬character.isUpper = true := by
        simp only [Char.isAlpha, Bool.or_eq_false_iff] at letter
        simp [letter.1]
      rw [Char.toLower_eq_of_not_isUpper small]

theorem toNat_of_isIdentifierPart {character : Char}
    (part : isIdentifierPart character = true) :
    0x30 ≤ character.toNat ∧ character.toNat ≤ 0x7A := by
  simp only [isIdentifierPart, Char.isAlphanum, Char.isAlpha, Char.isUpper, Char.isLower,
    Char.isDigit, Bool.or_eq_true, Bool.and_eq_true, decide_eq_true_eq, beq_iff_eq, ge_iff_le,
    UInt32.le_iff_toNat_le] at part
  change ((((0x41 ≤ character.toNat ∧ character.toNat ≤ 0x5A) ∨
    (0x61 ≤ character.toNat ∧ character.toNat ≤ 0x7A)) ∨
    (0x30 ≤ character.toNat ∧ character.toNat ≤ 0x39)) ∨ character = '_') at part
  rcases part with ((upper | lower) | digit) | rfl
  · omega
  · omega
  · omega
  · decide

theorem isBlank_eq_false_of_isIdentifierPart {character : Char}
    (part : isIdentifierPart character = true) : isBlank character = false := by
  have bounds := toNat_of_isIdentifierPart part
  simp only [isBlank, blankRanges, List.any_cons, List.any_nil, Bool.or_false,
    Bool.or_eq_false_iff, Bool.and_eq_false_iff, decide_eq_false_iff_not]
  omega

theorem isBlank_toLower (character : Char) :
    isBlank character.toLower = isBlank character := by
  cases letter : character.isAlpha with
  | true =>
      have part : ∀ other : Char, other.isAlpha = true → isBlank other = false := fun other h =>
        isBlank_eq_false_of_isIdentifierPart (by simp [isIdentifierPart, Char.isAlphanum, h])
      rw [part character letter, part character.toLower (by simp [letter])]
  | false =>
      rw [(toLower_eq_iff letter character).mpr rfl]

@[simp] theorem lowerCase_lowerCase (text : List Char) :
    lowerCase (lowerCase text) = lowerCase text := by
  simp [lowerCase]

theorem sameWord_iff (left right : List Char) :
    sameWord left right = true ↔ lowerCase left = lowerCase right := by
  simp [sameWord]

theorem mem_lowerCase_iff {separator : Char} (noLetter : separator.isAlpha = false)
    (text : List Char) : separator ∈ lowerCase text ↔ separator ∈ text := by
  simp [lowerCase, toLower_eq_iff noLetter]

/-- A text without a single blank. -/
def Blankless (text : List Char) : Prop :=
  ∀ character ∈ text, isBlank character = false

instance : DecidablePred Blankless := fun text =>
  List.decidableBAll (fun character => isBlank character = false) text

theorem blankless_lowerCase_iff (text : List Char) :
    Blankless (lowerCase text) ↔ Blankless text := by
  simp [Blankless, lowerCase, isBlank_toLower]

theorem Blankless.trimmed {text : List Char} (blankless : Blankless text) : Trimmed text :=
  ⟨fun _ first => blankless _ (List.mem_of_mem_head? first),
    fun _ last => blankless _ (List.mem_of_mem_getLast? last)⟩

/-! ## Identifiers -/

theorem isIdentifierPart_of_mem {word : List Char} (identifier : isIdentifier word = true)
    {character : Char} (member : character ∈ word) : isIdentifierPart character = true := by
  cases word with
  | nil => cases member
  | cons head tail =>
      simp only [isIdentifier, Bool.and_eq_true, List.all_eq_true] at identifier
      rcases List.mem_cons.mp member with rfl | member
      · have start := identifier.1
        simp only [isIdentifierStart, Bool.or_eq_true] at start
        rcases start with letter | underscore
        · simp [isIdentifierPart, Char.isAlphanum, letter]
        · simp [isIdentifierPart, underscore]
      · exact identifier.2 character member

theorem ne_nil_of_isIdentifier {word : List Char} (identifier : isIdentifier word = true) :
    word ≠ [] := by
  intro empty
  subst word
  simp [isIdentifier] at identifier

theorem blankless_of_isIdentifier {word : List Char} (identifier : isIdentifier word = true) :
    Blankless word :=
  fun _ member => isBlank_eq_false_of_isIdentifierPart (isIdentifierPart_of_mem identifier member)

theorem not_mem_of_isIdentifier {word : List Char} (identifier : isIdentifier word = true)
    {separator : Char} (noPart : isIdentifierPart separator = false) : separator ∉ word := by
  intro member
  simp [isIdentifierPart_of_mem identifier member] at noPart

end IssueTiming.Text
