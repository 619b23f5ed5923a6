import IssueTiming.Isa.Variant

/-!
# Dialects

A dialect is a list of instruction variants and a register file. The order of
the variants is the order in which a line is tried against them.
-/

namespace IssueTiming

structure Dialect where
  name : String
  description : String
  variants : List Variant
  registers : RegisterFile
deriving DecidableEq, Repr

namespace Dialect

/-- The first variant that performs an operation. -/
def variant? (dialect : Dialect) (opcode : Opcode) : Option Variant :=
  dialect.variants.find? fun variant => variant.opcode == opcode

def title (dialect : Dialect) : String :=
  dialect.name ++ " (" ++ dialect.description ++ ")"

end Dialect

namespace Variant

def registerForm (name : String) (opcode : Opcode) (mnemonic : String)
    (suffixKind : Option SuffixKind) (outputs inOuts inputs : List RegisterClass) : Variant :=
  { name, opcode, mnemonic, suffixKind, outputs, inOuts, inputs, memory := none }

/-- A variant that loads from or stores to memory; the base register is the last
of its inputs. -/
def memoryForm (name : String) (opcode : Opcode) (mnemonic : String)
    (suffixKind : Option SuffixKind) (access : MemoryAccess)
    (outputs inputs : List RegisterClass) : Variant :=
  { name, opcode, mnemonic, suffixKind, outputs, inOuts := [], inputs, memory := some access }

end Variant

end IssueTiming
