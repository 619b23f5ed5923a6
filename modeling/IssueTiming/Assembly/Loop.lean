import IssueTiming.Assembly.Comment
import IssueTiming.Assembly.Error
import IssueTiming.Assembly.Statement
import IssueTiming.Text.Cut
import IssueTiming.Text.Word

/-!
# Loops

A loop begins at the line that defines its label and ends at the first later
line that branches back to it. Both are found in the code of the lines alone; no
instruction is read. Code after the label, on the same line, is the first line
of the body, whatever it says.
-/

namespace IssueTiming.Assembly

def loopBranches : List String :=
  ["b", "bnz", "bne", "bgt", "b.ne", "b.gt", "b.hi", "cbnz", "le", "letp"]

def isLabelPart (character : Char) : Bool :=
  character.isAlphanum || character == '_' || character == '.'

/-- Labels are of ASCII letters, digits, underscores and points. -/
def isLabel (text : List Char) : Bool :=
  !text.isEmpty && text.all isLabelPart

def definedLabel? (line : List Char) : Option (List Char × List Char) :=
  match Text.cut? (· == ':') (code line) with
  | none => none
  | some (before, after) =>
      let label := Text.trim before
      if isLabel label then some (label, Text.trim after) else none

example : definedLabel? "start: nop // go".toList = some ("start".toList, "nop".toList) := by
  decide

/-- Whether a line branches back to a label: its mnemonic is a loop branch and
its last operand is the label. -/
def branchesTo (label : List Char) (line : List Char) : Bool :=
  let (mnemonic, operands) := Statement.splitToken (code line)
  (loopBranches.any fun branch => Text.sameWord mnemonic branch.toList)
    && Text.trim (Text.lastField ',' operands) == label

example : branchesTo "start".toList "LE lr, start".toList = true := by decide

structure Loop where
  label : String
  preamble : List String
  body : List String
  closingBranch : String
  postamble : List String
deriving DecidableEq, Repr

/-- The lines before the one that defines a label, the code after its colon and
the lines that follow. -/
def splitAtLabel? (label : List Char) :
    List String → Option (List String × List Char × List String)
  | [] => none
  | line :: lines =>
      match definedLabel? line.toList with
      | some (found, remainder) =>
          if found = label then some ([], remainder, lines)
          else (splitAtLabel? label lines).map fun (before, after) => (line :: before, after)
      | none => (splitAtLabel? label lines).map fun (before, after) => (line :: before, after)

/-- The lines before the first branch back to a label, that branch and the lines
after it. -/
def splitAtBranch? (label : List Char) :
    List String → Option (List String × String × List String)
  | [] => none
  | line :: lines =>
      if branchesTo label line.toList then some ([], line, lines)
      else (splitAtBranch? label lines).map fun (before, after) => (line :: before, after)

namespace Loop

def reassemble (loop : Loop) (body : List String) : List String :=
  loop.preamble ++ (loop.label ++ ":") :: body ++ loop.closingBranch :: loop.postamble

def extract (lines : List String) (label : String) : Except Fault Loop :=
  match splitAtLabel? label.toList lines with
  | none => .error (.loopNotFound label)
  | some (preamble, remainder, rest) =>
      match splitAtBranch? label.toList rest with
      | none => .error (.loopNotClosed label)
      | some (body, closingBranch, postamble) =>
          .ok {
            label, preamble, closingBranch, postamble
            body := if remainder.isEmpty then body else String.ofList remainder :: body }

end Loop

end IssueTiming.Assembly
