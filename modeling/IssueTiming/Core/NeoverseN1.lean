import IssueTiming.Core.Basic
import IssueTiming.Isa.Neon

/-!
# Arm Neoverse N1

A four-wide out-of-order core. A store takes a load/store pipe for its address
and the data pipe for its value.
-/

namespace IssueTiming

namespace NeoverseN1

inductive Pipe where
  | b | s0 | s1 | m | l0 | l1 | d | v0 | v1
deriving DecidableEq, Repr

instance : ExecutionUnit Pipe where
  index pipe := ⟨pipe.ctorIdx, by cases pipe <;> decide⟩
  names := ["B", "S0", "S1", "M", "L0", "L1", "D", "V0", "V1"]

def storePipes : UnitRequirement :=
  .all [[Pipe.l0, Pipe.l1], [Pipe.d]]

def tables : CostTables :=
  .ofRules "Arm_Neoverse_N1"
    [(.satisfies Instruction.isAnyStore, storePipes),
      (.satisfies Instruction.isVectorMul, .any [Pipe.v0]),
      (.satisfies Instruction.isVectorAddSub, .any [Pipe.v0, Pipe.v1]),
      (.operation .mulX, .any [Pipe.m]),
      (.satisfies Instruction.isAnyLoad, .any [Pipe.l0, Pipe.l1]),
      (.operation .addX, .any [Pipe.s0, Pipe.s1, Pipe.m]),
      (.operation .nop, .any [Pipe.b, Pipe.s0, Pipe.s1])]
    [(.operation .stp, 2),
      (.anyOf [.satisfies Instruction.isVectorMul, .satisfies Instruction.isVectorAddSub,
        .satisfies Instruction.isAnyLoad, .satisfies Instruction.isAnyStore,
        .operations [.mulX, .addX, .nop]], 1)]
    [(.operation .ldr, 5),
      (.anyOf [.operations [.mulV, .mla], .satisfies Instruction.isAnyLoad], 4),
      (.operation .fmul, 3),
      (.operations [.addV, .subV, .mulX], 2),
      (.satisfies Instruction.isAnyStore, 1),
      (.operations [.addX, .nop], 1)]

def refine (source : Instruction) (index : Nat) (target : Instruction) (baseline : Nat) :
    Latency :=
  if source.opcode = .mla ∧ source.feedsAccumulator index target then .plain 1
  else .plain baseline

end NeoverseN1

def neoverseN1 : Core where
  name := "Arm_Neoverse_N1"
  dialect := neon
  issueRate := 4
  unitNames := ExecutionUnit.names NeoverseN1.Pipe
  tables := NeoverseN1.tables
  refine := NeoverseN1.refine

end IssueTiming
