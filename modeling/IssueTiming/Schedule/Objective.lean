import IssueTiming.Isa.Instruction

/-!
# Objectives

An objective scores a finished schedule, so that two schedules that meet all
constraints can be compared.
-/

namespace IssueTiming

inductive Sense where
  | minimize
  | maximize
deriving DecidableEq, Repr

inductive ObjectiveTerm where
  /-- The number of pairs in consecutive cycles whose earlier instruction passes
  the first test and whose later one passes the second. -/
  | adjacentPairs (first second : Instruction → Bool)

structure Objective where
  name : String
  sense : Sense
  term : ObjectiveTerm

abbrev Placement := List (Int × Instruction)

namespace ObjectiveTerm

def evaluate (schedule : Placement) : ObjectiveTerm → Nat
  | .adjacentPairs first second =>
      (schedule.flatMap fun earlier => schedule.map fun later => (earlier, later)).countP
        fun ((earlierCycle, earlier), (laterCycle, later)) =>
          laterCycle == earlierCycle + 1 && first earlier && second later

end ObjectiveTerm

namespace Objective

def evaluate (objective : Objective) (schedule : Placement) : Nat :=
  objective.term.evaluate schedule

def improves (objective : Objective) (candidate incumbent : Nat) : Bool :=
  match objective.sense with
  | .minimize => decide (candidate < incumbent)
  | .maximize => decide (incumbent < candidate)

end Objective

end IssueTiming
