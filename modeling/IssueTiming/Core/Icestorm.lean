import IssueTiming.Core.Basic
import IssueTiming.Isa.Neon

/-!
# Apple M1, efficiency core

A four-wide core with one pipe for loads and stores together. Of two schedules
the one with fewer stores in consecutive cycles is preferred.
-/

namespace IssueTiming

namespace Icestorm

inductive Pipe where
  | alu0 | alu1 | loadStore | vec0 | vec1
deriving DecidableEq, Repr

instance : ExecutionUnit Pipe where
  index pipe := ⟨pipe.ctorIdx, by cases pipe <;> decide⟩
  names := ["ALU0", "ALU1", "LS", "VEC0", "VEC1"]

def tables : CostTables :=
  .ofRules "Apple_M1_icestorm"
    [(.satisfies Instruction.isVectorArithmetic, .any [Pipe.vec0, Pipe.vec1]),
      (.operation .mulX, .any [Pipe.alu1]),
      (.anyOf [.satisfies Instruction.isAnyLoad, .satisfies Instruction.isAnyStore],
        .any [Pipe.loadStore]),
      (.operations [.addX, .nop], .any [Pipe.alu0, Pipe.alu1])]
    [(.operations [.stp, .mulX], 2),
      (.anyOf [.satisfies Instruction.isVectorArithmetic, .satisfies Instruction.isAnyLoad,
        .satisfies Instruction.isAnyStore, .operations [.addX, .nop]], 1)]
    [(.anyOf [.operations [.mulV, .mla, .fmul], .satisfies Instruction.isAnyLoad], 4),
      (.operations [.addV, .subV, .mulX], 3),
      (.satisfies Instruction.isAnyStore, 1),
      (.operations [.addX, .nop], 1)]

def objective : Objective where
  name := "store pair adjacency"
  sense := .minimize
  term := .adjacentPairs Instruction.isAnyStore Instruction.isAnyStore

end Icestorm

def icestorm : Core where
  name := "Apple_M1_icestorm"
  dialect := neon
  issueRate := 4
  unitNames := ExecutionUnit.names Icestorm.Pipe
  tables := Icestorm.tables
  objective := some Icestorm.objective

end IssueTiming
