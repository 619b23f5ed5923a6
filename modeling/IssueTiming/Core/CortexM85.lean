import IssueTiming.Core.Basic
import IssueTiming.Isa.Helium

/-!
# Arm Cortex-M85

A dual-issue Helium core. A vector store takes the store port and the address
generator in one cycle, and no two stores issue together, since the store buffer
drains one entry per cycle.
-/

namespace IssueTiming

namespace CortexM85

inductive Pipe where
  | alu0 | alu1 | agu | load | store | vecInt | vecMul | vecFp
deriving DecidableEq, Repr

instance : ExecutionUnit Pipe where
  index pipe := ⟨pipe.ctorIdx, by cases pipe <;> decide⟩
  names := ["ALU0", "ALU1", "AGU", "LOAD", "STORE", "VEC_INT", "VEC_MUL", "VEC_FP"]

def storePorts : UnitRequirement :=
  .all [[Pipe.store], [Pipe.agu]]

def tables : CostTables :=
  .ofRules "Arm_Cortex_M85"
    [(.satisfies Instruction.isFloatArithmetic, .any [Pipe.vecFp]),
      (.satisfies Instruction.isVectorMul, .any [Pipe.vecMul]),
      (.satisfies Instruction.isVectorAddSub, .any [Pipe.vecInt]),
      (.operation .vstrw, storePorts),
      (.satisfies Instruction.isAnyLoad, .any [Pipe.load]),
      (.satisfies Instruction.isAnyStore, .any [Pipe.store]),
      (.operations [.add, .nop], .any [Pipe.alu0, Pipe.alu1])]
    [(.satisfies Instruction.isVectorMul, 2),
      (.anyOf [.satisfies Instruction.isVectorAddSub, .satisfies Instruction.isAnyLoad,
        .satisfies Instruction.isAnyStore, .operations [.add, .nop]], 1)]
    [(.satisfies Instruction.isFloatArithmetic, 3),
      (.satisfies Instruction.isVectorMul, 3),
      (.satisfies Instruction.isVectorAddSub, 2),
      (.satisfies Instruction.isAnyLoad, 3),
      (.satisfies Instruction.isAnyStore, 1),
      (.operations [.add, .nop], 1)]

/-- Two vector stores keep two cycles between them, in either order. -/
def refine (source : Instruction) (_index : Nat) (target : Instruction) (baseline : Nat) :
    Latency :=
  if source.opcode = .vstrw ∧ target.opcode = .vstrw then .paired baseline (.apart 2)
  else .plain baseline

def constraints (program : Program) : List Constraint :=
  (program.pairsWhere fun first second => first.isAnyStore && second.isAnyStore).map
    fun (first, second) => .relate first.number second.number (.apart 1)

def objective : Objective where
  name := "load-to-multiply adjacency"
  sense := .minimize
  term := .adjacentPairs Instruction.isVectorLoad Instruction.isVectorMul

end CortexM85

def cortexM85 : Core where
  name := "Arm_Cortex_M85"
  dialect := helium
  issueRate := 2
  unitNames := ExecutionUnit.names CortexM85.Pipe
  tables := CortexM85.tables
  refine := CortexM85.refine
  constraints := CortexM85.constraints
  objective := some CortexM85.objective

end IssueTiming
