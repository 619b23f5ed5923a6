import IssueTiming.Isa.Instruction

/-!
# Programs

A program is what a scheduler places: nodes in program order, each with its
instruction. Two nodes may share a number, and then stand for one placement.
-/

namespace IssueTiming

structure Node where
  /-- The number by which the scheduler knows the node. -/
  number : Nat
  instruction : Instruction
deriving DecidableEq

structure Program where
  nodes : List Node
deriving DecidableEq

namespace Program

/-- The program of some instructions, numbered from zero. -/
def ofInstructions (instructions : List Instruction) : Program where
  nodes := instructions.zipIdx.map fun (instruction, number) => ⟨number, instruction⟩

/-- The nodes whose instruction passes a test, in program order. -/
def nodesWhere (program : Program) (test : Instruction → Bool) : List Node :=
  program.nodes.filter fun node => test node.instruction

/-- The pairs of an element of a list and a later one, in the order of their
positions. -/
def orderedPairs {α : Type} : List α → List (α × α)
  | [] => []
  | head :: tail => tail.map (fun later => (head, later)) ++ orderedPairs tail

example : orderedPairs [0, 1, 2] = [(0, 1), (0, 2), (1, 2)] := rfl

/-- The pairs of a node and a later one whose instructions pass a test together. -/
def pairsWhere (program : Program) (test : Instruction → Instruction → Bool) :
    List (Node × Node) :=
  (orderedPairs program.nodes).filter fun (first, second) =>
    test first.instruction second.instruction

end Program

end IssueTiming
