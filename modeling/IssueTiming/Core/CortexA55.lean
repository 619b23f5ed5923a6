import IssueTiming.Core.Basic
import IssueTiming.Isa.Neon

/-!
# Arm Cortex-A55

A dual-issue in-order core with two vector pipes. Integer multiplies forward
into an accumulator, and floating-point multiplies issue on the first vector
pipe only.
-/

namespace IssueTiming

namespace CortexA55

inductive Pipe where
  | scalarAlu0 | scalarAlu1 | scalarMac | scalarLoad | scalarStore | vec0 | vec1
deriving DecidableEq, Repr

instance : ExecutionUnit Pipe where
  index pipe := ⟨pipe.ctorIdx, by cases pipe <;> decide⟩
  names := ["SCALAR_ALU0", "SCALAR_ALU1", "SCALAR_MAC", "SCALAR_LOAD", "SCALAR_STORE",
    "VEC0", "VEC1"]

/-- A store of a pair of vectors drains through a vector pipe as well. -/
def pairStore : UnitRequirement :=
  .all [[Pipe.scalarStore], [Pipe.vec0, Pipe.vec1]]

def tables : CostTables :=
  .ofRules "Arm_Cortex_A55"
    [(.operation .stp, pairStore),
      (.anyOf [.satisfies Instruction.isVectorMul, .satisfies Instruction.isVectorAddSub],
        .any [Pipe.vec0, Pipe.vec1]),
      (.operation .mulX, .any [Pipe.scalarMac]),
      (.satisfies Instruction.isAnyLoad, .any [Pipe.scalarLoad]),
      (.satisfies Instruction.isAnyStore, .any [Pipe.scalarStore]),
      (.operations [.addX, .nop], .any [Pipe.scalarAlu0, Pipe.scalarAlu1])]
    [(.operations [.mulV, .mla, .stp], 2),
      (.anyOf [.operation .fmul, .satisfies Instruction.isVectorAddSub,
        .satisfies Instruction.isAnyLoad, .satisfies Instruction.isAnyStore,
        .operations [.mulX, .addX, .nop]], 1)]
    [(.operations [.mulV, .mla, .fmul], 4),
      (.satisfies Instruction.isVectorAddSub, 3),
      (.satisfies Instruction.isAnyLoad, 3),
      (.operation .mulX, 3),
      (.satisfies Instruction.isAnyStore, 1),
      (.operations [.addX, .nop], 1)]

def refine (source : Instruction) (index : Nat) (target : Instruction) (baseline : Nat) :
    Latency :=
  if (source.opcode = .mulV ∨ source.opcode = .mla) ∧ source.feedsAccumulator index target then
    .plain 1
  else .plain baseline

def constraints (program : Program) : List Constraint :=
  (program.nodesWhere fun instruction => instruction.opcode == .fmul).map
    fun node => .restrict node.number (.of [Pipe.vec0])

end CortexA55

def cortexA55 : Core where
  name := "Arm_Cortex_A55"
  dialect := neon
  issueRate := 2
  unitNames := ExecutionUnit.names CortexA55.Pipe
  tables := CortexA55.tables
  refine := CortexA55.refine
  constraints := CortexA55.constraints

end IssueTiming
