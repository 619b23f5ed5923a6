import IssueTiming.Isa.Helium
import IssueTiming.Isa.Neon

/-! # The built-in dialects, by name -/

namespace IssueTiming

structure UnknownDialect where
  name : String
deriving DecidableEq, Repr

namespace Dialect

def builtin : List Dialect :=
  [helium, neon]

def builtinNames : List String :=
  builtin.map Dialect.name

/-- The built-in dialect with exactly the given name. -/
def find (name : String) : Except UnknownDialect Dialect :=
  match builtin.find? fun dialect => dialect.name == name with
  | some dialect => .ok dialect
  | none => .error ⟨name⟩

example : builtinNames = ["Arm_v81M", "Arm_AArch64"] := by decide

end Dialect

/-- The report names every dialect that could have been chosen. -/
def UnknownDialect.message (error : UnknownDialect) : String :=
  "unknown architecture '" ++ error.name ++ "', valid choices: "
    ++ String.intercalate ", " Dialect.builtinNames

end IssueTiming
