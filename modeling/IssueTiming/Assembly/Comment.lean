import IssueTiming.Text.Blank

/-!
# Comments

A comment starts at the first `@` or `//` of a line and runs to its end. What
stands before it, without the blanks around it, is the code of the line.
-/

namespace IssueTiming.Assembly

def beforeComment : List Char → List Char
  | [] => []
  | '@' :: _ => []
  | '/' :: '/' :: _ => []
  | head :: tail => head :: beforeComment tail

/-- The code of a line: no comment and no blanks around it. -/
def code (line : List Char) : List Char :=
  Text.trim (beforeComment line)

def stripComment (line : String) : String :=
  String.ofList (code line.toList)

example : code "  nop @ gas style".toList = "nop".toList := by decide

/-- A single slash starts no comment. -/
example : code "a/b//c".toList = "a/b".toList := by decide

end IssueTiming.Assembly
