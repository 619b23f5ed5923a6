import IssueTiming.Assembly.Mismatch
import IssueTiming.Isa.Instruction
import IssueTiming.Text.Blank
import IssueTiming.Text.Cut
import IssueTiming.Text.Word

/-!
# Operand texts

Register operands are separated by commas. A memory operand ends the list:

    op0, ..., [base]
    op0, ..., [base, #offset]
    op0, ..., [base, #offset]!
    op0, ..., [base], #increment

Blanks may stand around every part. The address is found by its first `[` and
the `]` that follows, and everything after the `#` of an increment belongs to
the increment.
-/

namespace IssueTiming.Assembly

/-- The operand tokens of a text without brackets; a blank text has none. -/
def operandTokens (text : List Char) : List (List Char) :=
  if (Text.trim text).isEmpty then []
  else (Text.fields ',' text).map Text.trim

example : operandTokens " q0 , q1".toList = ["q0".toList, "q1".toList] := by decide

/-- Every operand token is an identifier; the first that is none is at fault. -/
def checkTokens (tokens : List (List Char)) : Except Mismatch Unit :=
  match tokens.find? fun token => !Text.isIdentifier token with
  | none => .ok ()
  | some token => .error (.operand (String.ofList token))

/-- An offset: a `#` and the text after it. -/
def readImmediate (text : List Char) : Except Mismatch String :=
  match Text.trim text with
  | '#' :: rest =>
      let value := Text.trim rest
      if value.isEmpty then .error (.address .emptyImmediate)
      else .ok (String.ofList value)
  | token => .error (.address (.noHash (String.ofList token)))

/-- A text divided around its first bracketed part. -/
structure Bracketed where
  before : List Char
  inside : List Char
  after : List Char
deriving DecidableEq, Repr

def splitBrackets (text : List Char) : Except Mismatch Bracketed :=
  match Text.cut? (· == '[') text with
  | none => .error (.address .noOpeningBracket)
  | some (before, rest) =>
      match Text.cut? (· == ']') rest with
      | none => .error (.address .noClosingBracket)
      | some (inside, after) => .ok ⟨before, inside, after⟩

/-- The tokens before an address. Each is followed by a comma, so the text is
blank or ends in one. -/
def leadingTokens (before : List Char) : Except Mismatch (List (List Char)) :=
  let text := Text.trim before
  if text.isEmpty then .ok []
  else if text.getLast? = some ',' then .ok (operandTokens text.dropLast)
  else .error (.address .noCommaBeforeBracket)

/-- The token of the base register and the offset inside the brackets. -/
def readInside (inside : List Char) : Except Mismatch (List Char × Option String) :=
  match Text.cut? (· == ',') inside with
  | none => do
      let base := Text.trim inside
      checkTokens [base]
      return (base, none)
  | some (first, offset) => do
      let base := Text.trim first
      let preIndex ← readImmediate offset
      checkTokens [base]
      return (base, some preIndex)

/-- The increment after an address and its `!`, if there is one. -/
def readIncrement : List Char → Except Mismatch (Option String)
  | [] => .ok none
  | ',' :: text => (readImmediate text).map some
  | text => .error (.address (.unexpectedText (String.ofList text)))

def readAfter (after : List Char) : Except Mismatch (Bool × Option String) :=
  match Text.trim after with
  | '!' :: rest => do
      let postIndex ← readIncrement (Text.trim rest)
      if postIndex.isSome then .error .writebackWithPostIndex else .ok (true, none)
  | text => (readIncrement text).map fun postIndex => (false, postIndex)

/-- Operand names that fill a given number of slots, with the address that the
last of them is the base of. -/
structure Captured (count : Nat) where
  names : List String
  names_length : names.length = count
  address : Option Address

/-- Reads the operand text of a variant that works on registers alone. -/
def readPlainOperands (count : Nat) (text : List Char) : Except Mismatch (Captured count) :=
  let tokens := operandTokens text
  if filled : tokens.length = count then do
    checkTokens tokens
    return ⟨tokens.map String.ofList, by simp [filled], none⟩
  else
    .error (.operandCount count tokens.length)

/-- Reads the operand text of a load or store. The parts of the address are
examined before the leading operand tokens. -/
def readMemoryOperands (count : Nat) (text : List Char) : Except Mismatch (Captured count) := do
  let parts ← splitBrackets text
  let tokens ← leadingTokens parts.before
  if filled : tokens.length + 1 = count then do
    let (base, preIndex) ← readInside parts.inside
    let (writeback, postIndex) ← readAfter parts.after
    checkTokens tokens
    return ⟨(tokens ++ [base]).map String.ofList, by simp [filled],
      some ⟨String.ofList base, preIndex, postIndex, writeback⟩⟩
  else
    .error (.operandCount count (tokens.length + 1))

def readOperands (variant : Variant) (text : List Char) :
    Except Mismatch (Captured variant.operandCount) :=
  if variant.memory.isSome then readMemoryOperands variant.operandCount text
  else readPlainOperands variant.operandCount text

end IssueTiming.Assembly
