import IssueTiming.Core.Basic
import IssueTiming.Toml.Document

/-!
# Settings of a run

A settings document names a dialect, a core, a mode and perhaps the label of a
loop:

    arch = "Arm_v81M"
    target = "Arm_Cortex_M55"
    mode = "functional-only"

    [loop]
    label = "start"

The mode is `performance` where none is given, and keys with other names are
passed over.
-/

namespace IssueTiming

namespace Mode

def key : Mode → String
  | .performance => "performance"
  | .functionalOnly => "functional-only"

def title : Mode → String
  | .performance => "Performance"
  | .functionalOnly => "FunctionalOnly"

def ofKey? (key : String) : Option Mode :=
  [performance, functionalOnly].find? fun mode => mode.key == key

/-- Whether a value holds nothing, as the value beside the name of a mode must. -/
def isVacant : Toml.Node → Bool
  | .array [] | .table _ [] | .tables [] => true
  | _ => false

/-- A mode is a string, or a table whose only entry has the name of the mode and
an empty value. -/
def ofNode? : Toml.Node → Option Mode
  | .string key => ofKey? key
  | .table _ [(key, value)] => if isVacant value then ofKey? key else none
  | _ => none

end Mode

structure Settings where
  dialect : String
  core : String
  mode : Mode
  loopLabel : Option String
deriving DecidableEq, Repr

namespace Settings

def text? : Toml.Node → Option String
  | .string text => some text
  | _ => none

/-- The label of a loop is an entry of a table, or the first item of an array. -/
def label? : Toml.Node → Option String
  | .table _ entries => (Toml.Entries.get? entries "label").bind text?
  | .array (label :: _) => text? label
  | _ => none

def ofEntries? (entries : Toml.Entries) : Option Settings := do
  let dialect ← text? (← entries.get? "arch")
  let core ← text? (← entries.get? "target")
  let mode ←
    match entries.get? "mode" with
    | none => some .performance
    | some node => Mode.ofNode? node
  let loopLabel ←
    match entries.get? "loop" with
    | none => some none
    | some node => (label? node).map some
  return { dialect, core, mode, loopLabel }

def parse? (source : String) : Option Settings := do
  ofEntries? (← Toml.parse source)

end Settings

inductive FileContents where
  | absent
  | unreadable
  | bytes (bytes : ByteArray)

/-- Why no settings could be loaded. -/
inductive LoadFault where
  | malformed
  | unreadable
  | notFound (path : String)
deriving DecidableEq, Repr

namespace Settings

def parse (source : String) : Except LoadFault Settings :=
  match parse? source with
  | some settings => .ok settings
  | none => .error .malformed

def load (path : String) : FileContents → Except LoadFault Settings
  | .absent => .error (.notFound path)
  | .unreadable => .error .unreadable
  | .bytes bytes =>
      match String.fromUTF8? bytes with
      | none => .error .unreadable
      | some source => parse source

end Settings

/-- The text of a fault that has one; the others are known by their kind alone. -/
def LoadFault.message? : LoadFault → Option String
  | .notFound path => some ("configuration file not found: " ++ path)
  | .malformed | .unreadable => none

end IssueTiming
