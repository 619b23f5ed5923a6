import IssueTiming.Assembly.Statement
import IssueTiming.Proofs.Text.Separation
import IssueTiming.Proofs.Text.Words

/-!
# Dividing a statement

A text is divided into the one statement that it writes: a token without blanks,
which is the mnemonic with its suffix after a point, then blanks, then the
operand text.
-/

namespace IssueTiming.Assembly

open Text

/-- A suffix with the point that separates it from the mnemonic. -/
def suffixText : Option (List Char) → List Char
  | none => []
  | some suffix => '.' :: suffix

theorem suffixText_injective : Function.Injective suffixText := by
  intro suffix other same
  cases suffix with
  | none =>
      cases other with
      | none => rfl
      | some other => cases same
  | some suffix =>
      cases other with
      | none => cases same
      | some other => rw [List.tail_eq_of_cons_eq same]

namespace Statement

/-- The first word of a statement. -/
def token (statement : Statement) : List Char :=
  statement.mnemonic ++ suffixText statement.suffix

/-- The text consists of the token of the statement and, where anything follows
it, of blanks and the operand text. -/
structure WrittenAs (statement : Statement) (text : List Char) : Prop where
  blankless : Blankless statement.token
  noPoint : '.' ∉ statement.mnemonic
  parts : ∃ gap rest, Blank gap ∧ (gap = [] → rest = []) ∧ trim rest = statement.operands ∧
    text = statement.token ++ gap ++ rest

theorem splitToken_append {word gap rest : List Char} (blankless : Blankless word)
    (blank : Blank gap) (ended : gap = [] → rest = []) :
    splitToken (word ++ gap ++ rest) = (word, gap.drop 1 ++ rest) := by
  cases gap with
  | nil =>
      have uncut : cut? isBlank word = none := (cut?_eq_none_iff _ _).mpr blankless
      simp [ended rfl, splitToken, uncut]
  | cons first gap =>
      have cut : cut? isBlank (word ++ first :: gap ++ rest) = some (word, gap ++ rest) := by
        rw [cut?_eq_some_iff]
        exact ⟨first, blank first (by simp), blankless, by simp⟩
      rw [splitToken, cut]
      rfl

theorem splitToken_parts (text : List Char) :
    Blankless (splitToken text).1 ∧ ∃ gap, Blank gap ∧ (gap = [] → (splitToken text).2 = []) ∧
      text = (splitToken text).1 ++ gap ++ (splitToken text).2 := by
  cases cut : cut? isBlank text with
  | none =>
      simp only [splitToken, cut, Option.getD_none]
      exact ⟨(cut?_eq_none_iff _ _).mp cut, [], by simp⟩
  | some parts =>
      rcases parts with ⟨word, rest⟩
      rcases (cut?_eq_some_iff _ _ _ _).mp cut with ⟨blank, isBlank, blankless, rfl⟩
      simp only [splitToken, cut, Option.getD_some]
      exact ⟨blankless, [blank], by simp [isBlank], by simp, by simp⟩

/-- The code of a line is divided into the statement it writes. -/
theorem ofCode_eq_iff (text : List Char) (statement : Statement) :
    ofCode text = statement ↔ statement.WrittenAs text := by
  constructor
  · intro same
    subst statement
    rcases splitToken_parts text with ⟨blankless, gap, blank, ended, equal⟩
    cases cut : cut? (· == '.') (splitToken text).1 with
    | none =>
        have noPoint := (cut?_char_eq_none_iff _).mp cut
        simp only [ofCode, cut]
        refine ⟨?_, noPoint, gap, (splitToken text).2, blank, ended, rfl, ?_⟩
        · simpa [token, suffixText] using blankless
        · simpa [token, suffixText] using equal
    | some parts =>
        rcases parts with ⟨mnemonic, suffix⟩
        rcases (cut?_char_eq_some_iff _ _ _).mp cut with ⟨noPoint, joined⟩
        simp only [ofCode, cut]
        refine ⟨?_, noPoint, gap, (splitToken text).2, blank, ended, rfl, ?_⟩
        · simpa only [token, suffixText, joined] using blankless
        · simpa only [token, suffixText, joined] using equal
  · rcases statement with ⟨mnemonic, suffix, operands⟩
    intro written
    rcases written with ⟨blankless, noPoint, gap, rest, blank, ended, trimmed, rfl⟩
    have operandText : trim (gap.drop 1 ++ rest) = operands := by
      rw [trim_append_of_blank fun character member => blank _ (List.mem_of_mem_drop member)]
      exact trimmed
    simp only [ofCode, splitToken_append blankless blank ended, operandText]
    cases suffix with
    | none =>
        have bare : token ⟨mnemonic, none, operands⟩ = mnemonic := by simp [token, suffixText]
        rw [bare, (cut?_char_eq_none_iff mnemonic).mpr noPoint]
    | some suffix =>
        have cut : cut? (· == '.') (token ⟨mnemonic, some suffix, operands⟩) =
            some (mnemonic, suffix) :=
          (cut?_char_eq_some_iff _ _ _).mpr ⟨noPoint, rfl⟩
        rw [cut]

/-- A text without blanks around it ends in the operand text itself. -/
theorem WrittenAs.tight {statement : Statement} {text : List Char}
    (written : statement.WrittenAs text) (trimmed : Trimmed text) :
    ∃ gap, Blank gap ∧ (gap = [] → statement.operands = []) ∧
      text = statement.token ++ gap ++ statement.operands := by
  rcases written with ⟨-, -, gap, rest, gapBlank, ended, operands, rfl⟩
  rcases trimmed.exists_eq_append_trim with ⟨left, leftBlank, padded⟩
  rw [operands] at padded
  refine ⟨gap ++ left, by simp [gapBlank, leftBlank], ?_, by simp [padded]⟩
  intro empty
  rw [← operands, ended (List.append_eq_nil_iff.mp empty).1]
  rfl

end Statement

end IssueTiming.Assembly
