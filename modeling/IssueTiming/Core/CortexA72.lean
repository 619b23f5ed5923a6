import IssueTiming.Core.Basic
import IssueTiming.Isa.Neon

/-!
# Arm Cortex-A72, front end

Three instructions a cycle are decoded for two integer, two load, two store and
two vector pipes. Vector multiplies never issue back to back.
-/

namespace IssueTiming

namespace CortexA72

inductive Pipe where
  | int0 | int1 | mac | load0 | load1 | store0 | store1 | asimd0 | asimd1
deriving DecidableEq, Repr

instance : ExecutionUnit Pipe where
  index pipe := ⟨pipe.ctorIdx, by cases pipe <;> decide⟩
  names := ["INT0", "INT1", "MAC", "LOAD0", "LOAD1", "STORE0", "STORE1", "ASIMD0", "ASIMD1"]

/-- A store of a pair takes both store pipes. -/
def pairStore : UnitRequirement :=
  .all [[Pipe.store0], [Pipe.store1]]

def tables : CostTables :=
  .ofRules "Arm_Cortex_A72_frontend"
    [(.operation .stp, pairStore),
      (.satisfies Instruction.isVectorMul, .any [Pipe.asimd0]),
      (.satisfies Instruction.isVectorAddSub, .any [Pipe.asimd0, Pipe.asimd1]),
      (.operation .mulX, .any [Pipe.mac]),
      (.satisfies Instruction.isAnyLoad, .any [Pipe.load0, Pipe.load1]),
      (.satisfies Instruction.isAnyStore, .any [Pipe.store0, Pipe.store1]),
      (.operations [.addX, .nop], .any [Pipe.int0, Pipe.int1])]
    [(.satisfies Instruction.isVectorMul, 2),
      (.anyOf [.satisfies Instruction.isVectorAddSub, .satisfies Instruction.isAnyLoad,
        .satisfies Instruction.isAnyStore, .operations [.mulX, .addX, .nop]], 1)]
    [(.operations [.mulV, .mla, .ldr], 5),
      (.anyOf [.operation .fmul, .satisfies Instruction.isAnyLoad], 4),
      (.operations [.addV, .subV, .mulX], 3),
      (.satisfies Instruction.isAnyStore, 1),
      (.operations [.addX, .nop], 1)]

/-- A chain of multiply-accumulates forwards the accumulator late. -/
def refine (source : Instruction) (index : Nat) (target : Instruction) (baseline : Nat) :
    Latency :=
  if source.opcode = .mla ∧ source.feedsAccumulator index target then .plain 2
  else .plain baseline

def constraints (program : Program) : List Constraint :=
  (program.pairsWhere fun first second => first.isVectorMul && second.isVectorMul).map
    fun (first, second) => .relate first.number second.number .notAdjacent

end CortexA72

def cortexA72 : Core where
  name := "Arm_Cortex_A72_frontend"
  dialect := neon
  issueRate := 3
  unitNames := ExecutionUnit.names CortexA72.Pipe
  tables := CortexA72.tables
  refine := CortexA72.refine
  constraints := CortexA72.constraints

end IssueTiming
