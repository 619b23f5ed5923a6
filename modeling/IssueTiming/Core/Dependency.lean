import IssueTiming.Core.Basic

/-!
# Dependencies

A later instruction depends on an earlier one when it reads a register that the
earlier one writes. Writes in between do not end a dependency here.
-/

namespace IssueTiming

/-- A register that flows from one instruction of a sequence to a later one. -/
structure Dependency where
  /-- The position of the writing instruction. -/
  source : Nat
  /-- Which of its written registers is read. -/
  index : Nat
  /-- The position of the reading instruction. -/
  target : Nat
  latency : Except NoRule Latency

namespace Core

/-- The dependencies between two instructions at given positions, one for each
written register that is read. -/
def dependenciesBetween (core : Core) (source target : Node) : List Dependency :=
  (List.range source.instruction.variant.writtenCount).filterMap fun index =>
    match source.instruction.written? index with
    | none => none
    | some written =>
        if target.instruction.reads.contains written then
          some ⟨source.number, index, target.number,
            core.latency source.instruction index target.instruction⟩
        else none

/-- The dependencies of a program, by source, then by target. -/
def dependencies (core : Core) (program : Program) : List Dependency :=
  (Program.orderedPairs program.nodes).flatMap fun (source, target) =>
    core.dependenciesBetween source target

/-- The score of a sequence that issues one instruction per cycle, in order. -/
def inOrderScore? (core : Core) (program : Program) : Option Nat :=
  core.objective.map fun objective =>
    objective.evaluate (program.nodes.map fun node => ((node.number : Int), node.instruction))

end Core

end IssueTiming
