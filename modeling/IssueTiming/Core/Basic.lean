import IssueTiming.Isa.Dialect
import IssueTiming.Schedule.Constraint
import IssueTiming.Schedule.Objective
import IssueTiming.Timing.RuleTable

/-!
# Cores

A core prices the instructions of one dialect. Three rule tables give the units
an instruction occupies, the spacing of its issues and its baseline latency. A
core may refine the baseline for a producer and its consumer, demand constraints
of a whole program, and prefer some schedules by an objective.
-/

namespace IssueTiming

structure CostTables where
  units : RuleTable UnitRequirement
  /-- Cycles before the same units accept another instruction. -/
  inverseThroughput : RuleTable Nat
  /-- Cycles from a producer to a consumer, before any refinement. -/
  latency : RuleTable Nat

namespace CostTables

def ofRules (owner : String) (units : List (Key × UnitRequirement))
    (inverseThroughput latency : List (Key × Nat)) : CostTables where
  units := ⟨owner, "execution_units", units, none⟩
  inverseThroughput := ⟨owner, "inverse_throughput", inverseThroughput, none⟩
  latency := ⟨owner, "latency", latency, none⟩

def names (tables : CostTables) : List String :=
  [tables.units.name, tables.inverseThroughput.name, tables.latency.name]

end CostTables

/-- Whether performance counts in a run, or only that the program stays correct. -/
inductive Mode where
  | performance
  /-- Constraints for the sake of performance are left out. -/
  | functionalOnly
deriving DecidableEq, Repr

structure Core where
  name : String
  dialect : Dialect
  /-- The most instructions that issue in one cycle. -/
  issueRate : Nat
  /-- The names of the units, in the order of their bits in a unit set. -/
  unitNames : List String
  tables : CostTables
  /-- The latency from the register a producer writes at an index to a consumer,
  given the baseline latency of the producer. -/
  refine : (source : Instruction) → (index : Nat) → (target : Instruction) →
    (baseline : Nat) → Latency := fun _ _ _ baseline => .plain baseline
  constraints : Program → List Constraint := fun _ => []
  objective : Option Objective := none

namespace Core

def units (core : Core) (instruction : Instruction) : Except NoRule UnitRequirement :=
  core.tables.units.resolve instruction

def inverseThroughput (core : Core) (instruction : Instruction) : Except NoRule Nat :=
  core.tables.inverseThroughput.resolve instruction

def baseLatency (core : Core) (instruction : Instruction) : Except NoRule Nat :=
  core.tables.latency.resolve instruction

/-- The latency from the register that `source` writes at `index` to `target`.
The baseline is looked up first, so an instruction without one has no latency to
any consumer. -/
def latency (core : Core) (source : Instruction) (index : Nat) (target : Instruction) :
    Except NoRule Latency :=
  (core.baseLatency source).map (core.refine source index target)

/-- Records what the core demands of a program, unless the run is functional
only. -/
def constrain (core : Core) (mode : Mode) (program : Program) (recording : Recording) :
    Recording :=
  match mode with
  | .functionalOnly => recording
  | .performance => recording.recordAll (core.constraints program)

end Core

end IssueTiming
