import IssueTiming.Text.Blank
import IssueTiming.Text.Cut

/-!
# Statements

A statement is the code of one line, divided into its mnemonic, its suffix and
the text of its operands. The mnemonic token ends at the first blank; within the
token the suffix begins after the first point.
-/

namespace IssueTiming.Assembly

structure Statement where
  mnemonic : List Char
  suffix : Option (List Char)
  /-- The operand text, without blanks around it. -/
  operands : List Char
deriving DecidableEq, Repr

namespace Statement

/-- The first word of a text and what follows the blank after it. -/
def splitToken (text : List Char) : List Char × List Char :=
  (Text.cut? Text.isBlank text).getD (text, [])

def ofCode (text : List Char) : Statement :=
  let (token, rest) := splitToken text
  match Text.cut? (· == '.') token with
  | some (mnemonic, suffix) => ⟨mnemonic, some suffix, Text.trim rest⟩
  | none => ⟨token, none, Text.trim rest⟩

example : ofCode "vmul.s32 q0, q1".toList =
    ⟨"vmul".toList, some "s32".toList, "q0, q1".toList⟩ := by decide

end Statement

end IssueTiming.Assembly
