import IssueTiming.Core.CortexA55
import IssueTiming.Core.CortexA72
import IssueTiming.Core.CortexM55
import IssueTiming.Core.CortexM85
import IssueTiming.Core.Firestorm
import IssueTiming.Core.Icestorm
import IssueTiming.Core.NeoverseN1

/-! # The built-in cores, by name -/

namespace IssueTiming

structure UnknownCore where
  name : String
deriving DecidableEq, Repr

namespace Core

def builtin : List Core :=
  [cortexM55, cortexM85, cortexA55, cortexA72, neoverseN1, firestorm, icestorm]

def builtinNames : List String :=
  builtin.map Core.name

/-- The built-in core with exactly the given name. -/
def find (name : String) : Except UnknownCore Core :=
  match builtin.find? fun core => core.name == name with
  | some core => .ok core
  | none => .error ⟨name⟩

/-- The built-in cores that price the instructions of a dialect, by its name. -/
def ofDialect (dialect : String) : List Core :=
  builtin.filter fun core => core.dialect.name == dialect

end Core

def UnknownCore.message (error : UnknownCore) : String :=
  "unknown target '" ++ error.name ++ "', valid choices: "
    ++ String.intercalate ", " Core.builtinNames

end IssueTiming
