import IssueTiming.Schedule.Program
import IssueTiming.Timing.Latency
import IssueTiming.Timing.Units

/-!
# Constraints

What a core demands of a schedule beyond its cost tables: relations between the
issue cycles of two nodes, and limits on the units of one node. A recording
keeps the constraints a scheduler was given, in order.
-/

namespace IssueTiming

inductive Constraint where
  | relate (first second : Nat) (relation : Relation)
  | restrict (node : Nat) (units : UnitSet)
deriving DecidableEq, Repr

structure Recording where
  relations : List (Nat × Nat × Relation)
  restrictions : List (Nat × UnitSet)
deriving DecidableEq, Repr

namespace Recording

def empty : Recording :=
  ⟨[], []⟩

def record (recording : Recording) : Constraint → Recording
  | .relate first second relation =>
      { recording with relations := recording.relations ++ [(first, second, relation)] }
  | .restrict node units =>
      { recording with restrictions := recording.restrictions ++ [(node, units)] }

def recordAll (recording : Recording) (constraints : List Constraint) : Recording :=
  constraints.foldl record recording

end Recording

end IssueTiming
