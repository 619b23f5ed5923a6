import IssueTiming.Proofs.Assembly.Loops
import IssueTiming.Proofs.Assembly.Statements

/-!
# Lines that begin and end a loop

What a line that defines a label and a line that branches back to it look like,
said of the code of the line and not by the scans that look for them. A line
begins or ends a loop exactly when it is written in this way.
-/

namespace IssueTiming.Assembly

open Text

/-- The code of the line is the label, a colon and the remainder, with blanks at
most around label and remainder. -/
structure DefinesLabel (label : String) (line : String) (remainder : List Char) : Prop where
  labelled : isLabel label.toList = true
  trimmed : Trimmed remainder
  written : ∃ before after, Padded label.toList before ∧ Padded remainder after ∧
    code line.toList = before ++ ':' :: after

/-- A line that defines the label, whatever follows the colon. -/
def BeginsLoop (label : String) (line : String) : Prop :=
  ∃ remainder, DefinesLabel label line remainder

/-- The first word of the line is a loop branch, in letters of either case, and
the last of the operands that commas separate is the label. -/
def BranchesBack (label : String) (line : String) : Prop :=
  ∃ mnemonic gap rest operands,
    code line.toList = mnemonic ++ gap ++ rest ∧ Blankless mnemonic ∧ Blank gap ∧
    (gap = [] → rest = []) ∧
    (∃ branch ∈ loopBranches, lowerCase mnemonic = lowerCase branch.toList) ∧
    Separated ',' (operands ++ [label.toList]) rest ∧
    ∀ operand ∈ operands ++ [label.toList], Trimmed operand ∧ ',' ∉ operand

/-- The remainder that is found after a colon is the one the line is written with. -/
theorem remainder?_eq_some_iff_definesLabel (label line : String) (remainder : List Char) :
    remainder? label.toList line = some remainder ↔ DefinesLabel label line remainder := by
  rw [remainder?_eq_some_iff]
  constructor
  · intro defined
    have labelled := isLabel_of_definedLabel? defined
    unfold definedLabel? at defined
    split at defined
    · cases defined
    next before after cut =>
    dsimp only at defined
    split at defined
    · rcases Prod.mk.inj (Option.some.inj defined) with ⟨sameLabel, sameRemainder⟩
      rcases (cut?_char_eq_some_iff _ _ _).mp cut with ⟨-, written⟩
      refine ⟨labelled, ?_, before, after, ?_, ?_, written⟩
      · rw [← sameRemainder]
        exact trimmed_trim after
      · rw [← sameLabel]
        exact padded_trim before
      · rw [← sameRemainder]
        exact padded_trim after
    · cases defined
  · intro defines
    rcases defines with ⟨labelled, trimmed, before, after, labelPadded, remainderPadded, written⟩
    have noColon : ':' ∉ before :=
      labelPadded.not_mem rfl (not_mem_of_isLabel labelled rfl)
    have cut : cut? (· == ':') (code line.toList) = some (before, after) :=
      (cut?_char_eq_some_iff _ _ _).mpr ⟨noColon, written⟩
    have sameLabel : trim before = label.toList :=
      labelPadded.trim_eq (blankless_of_isLabel labelled).trimmed
    simp only [definedLabel?, cut, sameLabel, remainderPadded.trim_eq trimmed, if_pos labelled]

theorem branchesTo_iff_branchesBack (label line : String) :
    branchesTo label.toList line.toList = true ↔ BranchesBack label line := by
  have comma : isBlank ',' = false := rfl
  simp only [branchesTo, Bool.and_eq_true, List.any_eq_true, sameWord_iff, beq_iff_eq]
  constructor
  · intro branches
    rcases branches with ⟨isBranch, last⟩
    rcases Statement.splitToken_parts (code line.toList) with ⟨blankless, gap, blank, ended, equal⟩
    rcases (trim_lastField_eq_iff comma _ _).mp last with ⟨operands, separated, tidy⟩
    exact ⟨_, gap, _, operands, equal, blankless, blank, ended, isBranch, separated, tidy⟩
  · intro written
    rcases written with
      ⟨mnemonic, gap, rest, operands, equal, blankless, blank, ended, isBranch, separated, tidy⟩
    have split := Statement.splitToken_append blankless blank ended
    have gapBlank : Blank (gap.drop 1) :=
      fun character member => blank character (List.mem_of_mem_drop member)
    rw [equal, split]
    exact ⟨isBranch, (trim_lastField_eq_iff comma _ _).mpr
      ⟨operands, separated.append_left gapBlank, tidy⟩⟩

theorem remainder?_eq_none_iff (label line : String) :
    remainder? label.toList line = none ↔ ¬BeginsLoop label line := by
  rw [Option.eq_none_iff_forall_ne_some]
  simp only [BeginsLoop, not_exists, ne_eq, remainder?_eq_some_iff_definesLabel]

theorem branchesTo_eq_false_iff (label line : String) :
    branchesTo label.toList line.toList = false ↔ ¬BranchesBack label line := by
  rw [← branchesTo_iff_branchesBack, Bool.not_eq_true]

instance (label : String) : DecidablePred (BeginsLoop label) := fun line =>
  decidable_of_iff (¬remainder? label.toList line = none)
    (by rw [remainder?_eq_none_iff, not_not])

instance (label line : String) (remainder : List Char) :
    Decidable (DefinesLabel label line remainder) :=
  decidable_of_iff _ (remainder?_eq_some_iff_definesLabel label line remainder)

instance (label : String) : DecidablePred (BranchesBack label) := fun line =>
  decidable_of_iff _ (branchesTo_iff_branchesBack label line)

example : DefinesLabel "start" "start : nop // go" "nop".toList ∧
    BranchesBack "start" "LE lr, start" := by decide +kernel

end IssueTiming.Assembly
