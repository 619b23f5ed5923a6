import IssueTiming.Assembly.Listing
import IssueTiming.Assembly.Loop
import IssueTiming.Core.Catalogue
import IssueTiming.Settings.Basic
import IssueTiming.Text.Quote

/-!
# Selections

Settings name a dialect and a core; a selection holds them. The names are looked
up among the built-in ones, the dialect first, and the core must price the
instructions of the dialect.
-/

namespace IssueTiming

structure Selection where
  dialect : Dialect
  core : Core
  mode : Mode
  loopLabel : Option String

inductive SelectionFault where
  | unknownDialect (error : UnknownDialect)
  | unknownCore (error : UnknownCore)
  | dialectMismatch (core expected found : String)
deriving DecidableEq, Repr

namespace SelectionFault

def message : SelectionFault → String
  | .unknownDialect error => error.message
  | .unknownCore error => error.message
  | .dialectMismatch core expected found =>
      "target '" ++ core ++ "' models " ++ expected ++ ", not " ++ found

end SelectionFault

namespace Settings

def resolve (settings : Settings) : Except SelectionFault Selection :=
  match Dialect.find settings.dialect with
  | .error error => .error (.unknownDialect error)
  | .ok dialect =>
      match Core.find settings.core with
      | .error error => .error (.unknownCore error)
      | .ok core =>
          if core.dialect.name = dialect.name then
            .ok { dialect, core, mode := settings.mode, loopLabel := settings.loopLabel }
          else
            .error (.dialectMismatch settings.core core.dialect.name settings.dialect)

end Settings

namespace Selection

def render (selection : Selection) : String :=
  let label :=
    match selection.loopLabel with
    | none => "None"
    | some label => "Some(" ++ Text.quote label ++ ")"
  "Selection \x7b arch: " ++ Text.quote selection.dialect.name
    ++ ", target: " ++ Text.quote selection.core.name
    ++ ", mode: " ++ selection.mode.title
    ++ ", loop_label: " ++ label ++ " \x7d"

/-- Reads the selected part of a listing: the body of the loop, or every line
where no loop is selected. -/
def parseListing (selection : Selection) (lines : List String) :
    Except Assembly.Fault (List Assembly.ParsedLine) := do
  let body ←
    match selection.loopLabel with
    | none => .ok lines
    | some label => (Assembly.Loop.extract lines label).map Assembly.Loop.body
  Assembly.parseListing selection.dialect body

end Selection

end IssueTiming
