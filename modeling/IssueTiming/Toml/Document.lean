import IssueTiming.Toml.Value

/-!
# TOML documents

A document is a sequence of sections. The first one has no header and assigns to
the root; every other one has a header in single or double brackets, and assigns
to the table that the header names.
-/

namespace IssueTiming.Toml

inductive Line where
  | header (path : List String) (key : String)
  | element (path : List String) (key : String)
  | assignment (path : List String) (key : String) (value : Node)

def scanLine : Scanner Line := fun text =>
  match text with
  | '[' :: '[' :: rest => do
      let ((path, key), text) ← scanKey rest
      return (.element path key, ← expectAll [']', ']'] text)
  | '[' :: rest => do
      let ((path, key), text) ← scanKey rest
      return (.header path key, ← expect ']' text)
  | text => do
      let ((path, key, value), text) ← scanAssignment (scanValue (nestingLimit - 1)) text
      return (.assignment path key value, text)

/-- The lines of a text, within a budget of lines. Blank lines and comments say
nothing. -/
def scanLines : Nat → List Char → Option (List Line)
  | 0, _ => none
  | budget + 1, text =>
      match skipBlankLines text with
      | [] => some []
      | '#' :: comment => do scanLines budget (← lineEnd? ('#' :: comment))
      | text => do
          let (line, text) ← scanLine text
          let lines ← scanLines budget (← lineEnd? text)
          return line :: lines

/-- The assignments up to the next header, and the lines from it on. -/
def splitSection : List Line → List (List String × String × Node) × List Line
  | .assignment path key value :: lines =>
      let (assignments, rest) := splitSection lines
      ((path, key, value) :: assignments, rest)
  | lines => ([], lines)

/-- Adds the sections of some lines to a table, within a budget of sections. -/
def addSections : Nat → Entries → List Line → Option Entries
  | 0, _, _ => none
  | _ + 1, root, [] => some root
  | budget + 1, root, line :: lines => do
      let (assignments, rest) := splitSection lines
      match line with
      | .header path key => addSections budget (← root.addTable path key assignments) rest
      | .element path key => addSections budget (← root.addElement path key assignments) rest
      | .assignment path key value =>
          addSections budget (← root.assignAll ((path, key, value) :: assignments)) rest

/-- The root table of a document. A byte-order mark may precede it. -/
def parse (source : String) : Option Entries := do
  let text := source.toList
  let text := if text.head? = some '\ufeff' then text.tail else text
  let lines ← scanLines (text.length + 1) text
  addSections (lines.length + 1) [] lines

end IssueTiming.Toml
