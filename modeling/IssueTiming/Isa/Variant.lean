import IssueTiming.Isa.Register
import IssueTiming.Isa.Suffix

/-!
# Instruction variants

A variant is the signature of one form of an instruction: its mnemonic, the kind
of suffix it carries and the register class of every operand slot. One mnemonic
may have several variants, which the classes of their slots tell apart.
-/

namespace IssueTiming

/-- The operation a variant performs. Cost rules refer to operations, so the
operations of all dialects form one type. -/
inductive Opcode where
  | vmul | vmulScalar | vmla | vqdmulh | vadd | vsub | add | vldrw | vstrw
  | qsave | qrestore | rsave | rrestore
  | mulV | mulX | mla | addV | addX | subV | fmul | ldr | ldrX | str | strX | stp
  | vsave | vrestore | xsave | xrestore
  | nop
deriving DecidableEq, Repr

namespace Opcode

def all : List Opcode :=
  [.vmul, .vmulScalar, .vmla, .vqdmulh, .vadd, .vsub, .add, .vldrw, .vstrw,
    .qsave, .qrestore, .rsave, .rrestore,
    .mulV, .mulX, .mla, .addV, .addX, .subV, .fmul, .ldr, .ldrX, .str, .strX, .stp,
    .vsave, .vrestore, .xsave, .xrestore,
    .nop]

theorem mem_all (opcode : Opcode) : opcode ∈ all := by
  cases opcode <;> decide

def name : Opcode → String
  | .vmul => "Vmul"
  | .vmulScalar => "VmulScalar"
  | .vmla => "Vmla"
  | .vqdmulh => "Vqdmulh"
  | .vadd => "Vadd"
  | .vsub => "Vsub"
  | .add => "Add"
  | .vldrw => "Vldrw"
  | .vstrw => "Vstrw"
  | .qsave => "Qsave"
  | .qrestore => "Qrestore"
  | .rsave => "Rsave"
  | .rrestore => "Rrestore"
  | .mulV => "MulV"
  | .mulX => "MulX"
  | .mla => "Mla"
  | .addV => "AddV"
  | .addX => "AddX"
  | .subV => "SubV"
  | .fmul => "Fmul"
  | .ldr => "Ldr"
  | .ldrX => "LdrX"
  | .str => "Str"
  | .strX => "StrX"
  | .stp => "Stp"
  | .vsave => "Vsave"
  | .vrestore => "Vrestore"
  | .xsave => "Xsave"
  | .xrestore => "Xrestore"
  | .nop => "Nop"

def ofName? (name : String) : Option Opcode :=
  all.find? fun opcode => opcode.name == name

end Opcode

inductive MemoryAccess where
  /-- Memory fills the leading operands. -/
  | load
  /-- The leading operands are written to memory. -/
  | store
deriving DecidableEq, Repr

/-- The signature of one instruction variant. Operands stand in source order:
the outputs, then the in-outs, then the inputs. The base register of a memory
variant is its last operand and is written inside brackets. -/
structure Variant where
  name : String
  opcode : Opcode
  mnemonic : String
  suffixKind : Option SuffixKind
  /-- Slots that are only written. -/
  outputs : List RegisterClass
  /-- Slots that are read and written. -/
  inOuts : List RegisterClass
  /-- Slots that are only read. -/
  inputs : List RegisterClass
  memory : Option MemoryAccess
deriving DecidableEq, Repr

namespace Variant

def slots (variant : Variant) : List RegisterClass :=
  variant.outputs ++ variant.inOuts ++ variant.inputs

def operandCount (variant : Variant) : Nat :=
  variant.slots.length

/-- How many registers the variant writes: its outputs and in-outs. -/
def writtenCount (variant : Variant) : Nat :=
  variant.outputs.length + variant.inOuts.length

def template (variant : Variant) : String :=
  match variant.suffixKind with
  | some kind => variant.mnemonic ++ "." ++ kind.placeholder
  | none => variant.mnemonic

theorem operandCount_eq (variant : Variant) :
    variant.operandCount = variant.writtenCount + variant.inputs.length := by
  simp [operandCount, slots, writtenCount]
  omega

end Variant

end IssueTiming
