import IssueTiming.Core.Basic
import IssueTiming.Isa.Neon

/-!
# Apple M1, performance core

An eight-wide core whose latencies depend on the producer alone.
-/

namespace IssueTiming

namespace Firestorm

inductive Pipe where
  | alu0 | alu1 | alu2 | alu3 | load0 | load1 | store | vec0 | vec1 | vec2 | vec3
deriving DecidableEq, Repr

instance : ExecutionUnit Pipe where
  index pipe := ⟨pipe.ctorIdx, by cases pipe <;> decide⟩
  names := ["ALU0", "ALU1", "ALU2", "ALU3", "LOAD0", "LOAD1", "STORE",
    "VEC0", "VEC1", "VEC2", "VEC3"]

def tables : CostTables :=
  .ofRules "Apple_M1_firestorm"
    [(.satisfies Instruction.isVectorArithmetic, .any [Pipe.vec0, Pipe.vec1, Pipe.vec2, Pipe.vec3]),
      (.operation .mulX, .any [Pipe.alu2, Pipe.alu3]),
      (.satisfies Instruction.isAnyLoad, .any [Pipe.load0, Pipe.load1]),
      (.satisfies Instruction.isAnyStore, .any [Pipe.store]),
      (.operations [.addX, .nop], .any [Pipe.alu0, Pipe.alu1, Pipe.alu2, Pipe.alu3])]
    [(.anyOf [.satisfies Instruction.isVectorArithmetic, .satisfies Instruction.isAnyLoad,
        .satisfies Instruction.isAnyStore, .operations [.mulX, .addX, .nop]], 1)]
    [(.anyOf [.operation .fmul, .satisfies Instruction.isAnyLoad], 4),
      (.operations [.mulV, .mla, .mulX], 3),
      (.operations [.addV, .subV], 2),
      (.satisfies Instruction.isAnyStore, 1),
      (.operations [.addX, .nop], 1)]

end Firestorm

def firestorm : Core where
  name := "Apple_M1_firestorm"
  dialect := neon
  issueRate := 8
  unitNames := ExecutionUnit.names Firestorm.Pipe
  tables := Firestorm.tables

end IssueTiming
