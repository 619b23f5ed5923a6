import IssueTiming.Core.Basic
import IssueTiming.Isa.Helium

/-!
# Arm Cortex-M55

A single-issue Helium core that processes a vector in two beats. A multiply
forwards into the accumulator of a multiply-accumulate, and two
multiply-accumulates with one accumulator issue exactly two cycles apart.
-/

namespace IssueTiming

namespace CortexM55

inductive Pipe where
  | scalar | load | store | vecInt | vecMul | vecFpAdd | vecFpMul
deriving DecidableEq, Repr

instance : ExecutionUnit Pipe where
  index pipe := ⟨pipe.ctorIdx, by cases pipe <;> decide⟩
  names := ["SCALAR", "LOAD", "STORE", "VEC_INT", "VEC_MUL", "VEC_FPADD", "VEC_FPMUL"]

def tables : CostTables :=
  .ofRules "Arm_Cortex_M55"
    [(.satisfies Instruction.isFloatMul, .any [Pipe.vecFpMul]),
      (.satisfies Instruction.isFloatArithmetic, .any [Pipe.vecFpAdd]),
      (.satisfies Instruction.isVectorMul, .any [Pipe.vecMul]),
      (.satisfies Instruction.isVectorAddSub, .any [Pipe.vecInt]),
      (.satisfies Instruction.isAnyLoad, .any [Pipe.load]),
      (.satisfies Instruction.isAnyStore, .any [Pipe.store]),
      (.operations [.add, .nop], .any [Pipe.scalar])]
    -- A vector operation holds its unit for both beats.
    [(.anyOf [.satisfies Instruction.isVectorMul, .satisfies Instruction.isVectorAddSub,
        .operation .vldrw, .operation .vstrw], 2),
      (.anyOf [.satisfies Instruction.isStackAccess, .operations [.add, .nop]], 1)]
    [(.satisfies Instruction.isFloatMul, 3),
      (.satisfies Instruction.isFloatArithmetic, 2),
      (.satisfies Instruction.isVectorMul, 2),
      (.satisfies Instruction.isVectorAddSub, 1),
      (.satisfies Instruction.isAnyLoad, 2),
      (.satisfies Instruction.isAnyStore, 1),
      (.operations [.add, .nop], 1)]

def refine (source : Instruction) (index : Nat) (target : Instruction) (baseline : Nat) :
    Latency :=
  if source.feedsAccumulator index target then
    if source.opcode = .vmla then .paired 2 (.exactly 2)
    else if source.isVectorMul && !source.isFloat then .plain 1
    else .plain baseline
  else .plain baseline

end CortexM55

def cortexM55 : Core where
  name := "Arm_Cortex_M55"
  dialect := helium
  issueRate := 1
  unitNames := ExecutionUnit.names CortexM55.Pipe
  tables := CortexM55.tables
  refine := CortexM55.refine

end IssueTiming
