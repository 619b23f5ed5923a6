import IssueTiming.Proofs.Assembly.LineReading
import IssueTiming.Proofs.Core.AccumulatorPairs

/-!
# Straight-line programs that a core can schedule

Five cycles between any two instructions satisfy all that a core asks of them,
unless it asks for an exact distance. Only the Cortex-M55 does, and so it is the
only core for which some program has no schedule at all.
-/

namespace IssueTiming

namespace Core

/-! ## Cores without exact distances -/

theorem within_refine {core : Core} (listed : core ∈ builtin)
    (other : core.name ≠ cortexM55.name) (source : Instruction) (index : Nat)
    (target : Instruction) {baseline : Nat} (short : baseline ≤ 5) :
    (core.refine source index target baseline).Within 5 := by
  rcases (mem_builtin_iff _).mp listed with rfl | rfl | rfl | rfl | rfl | rfl | rfl
  · exact absurd rfl other
  · change (CortexM85.refine source index target baseline).Within 5
    unfold CortexM85.refine
    split
    · refine ⟨short, ?_⟩
      intro relation related
      cases related
      exact Relation.holdsFrom_apart (by omega)
    · exact Latency.within_plain short
  -- The other cores at most replace the baseline.
  · exact Latency.within_ite_plain (by omega) short
  · exact Latency.within_ite_plain (by omega) short
  · exact Latency.within_ite_plain (by omega) short
  · exact Latency.within_plain short
  · exact Latency.within_plain short

/-- A core relates only nodes in program order, and by relations that five cycles
satisfy. -/
theorem holdsFrom_of_relate_mem {core : Core} (listed : core ∈ builtin) {program : Program}
    {first second : Nat} {relation : Relation}
    (member : .relate first second relation ∈ core.constraints program) :
    relation.HoldsFrom 5 ∧ ∃ earlier later, (earlier, later) ∈ Program.orderedPairs program.nodes ∧
      earlier.number = first ∧ later.number = second := by
  rcases (mem_builtin_iff _).mp listed with rfl | rfl | rfl | rfl | rfl | rfl | rfl
  · cases member
  · rcases Program.of_relate_mem member with ⟨rfl, pair⟩
    exact ⟨Relation.holdsFrom_apart (by omega), pair⟩
  · -- This core restricts units, and relates no nodes.
    rcases List.mem_map.mp member with ⟨_, _, restricted⟩
    cases restricted
  · rcases Program.of_relate_mem member with ⟨rfl, pair⟩
    exact ⟨Relation.holdsFrom_notAdjacent (by omega), pair⟩
  · cases member
  · cases member
  · cases member

theorem spaced_of_mem_builtin {core : Core} (listed : core ∈ builtin)
    (other : core.name ≠ cortexM55.name) : core.Spaced 5 := by
  constructor
  · intro source index target latency found
    rcases (map_eq_ok_iff _ _ _).mp found with ⟨baseline, looked, rfl⟩
    exact within_refine listed other source index target (baseLatency_le listed looked)
  · intro program first second relation member
    exact holdsFrom_of_relate_mem listed member

theorem admits_of_mem_builtin {core : Core} (listed : core ∈ builtin)
    (other : core.name ≠ cortexM55.name) {instructions : List Instruction}
    (known : ∀ instruction ∈ instructions, instruction.variant ∈ core.dialect.variants) :
    core.Admits instructions fun position => 5 * position := by
  refine (spaced_of_mem_builtin listed other).admits ?_
  intro instruction member index target
  rcases exists_baseLatency listed (known instruction member) with ⟨baseline, looked, -⟩
  exact ⟨_, latency_eq_ok looked index target⟩

theorem eq_cortexM55_of_name {core : Core} (listed : core ∈ builtin)
    (named : core.name = cortexM55.name) : core = cortexM55 := by
  have others : ∀ core ∈ builtin.tail, core.name ≠ cortexM55.name := by
    decide
  rcases List.mem_cons.mp listed with same | later
  · exact same
  · exact absurd named (others core later)

/-! ## All cores -/

/-- A straight-line program has a schedule on every core but the Cortex-M55. There it
has one exactly if no closed chain of what its flows demand has a positive total,
and in any case if the accumulators of its pairs flow nowhere else. -/
theorem exists_admits (core : Core) (listed : core ∈ builtin) (instructions : List Instruction)
    (known : ∀ instruction ∈ instructions, instruction.variant ∈ core.dialect.variants) :
    (core.name ≠ cortexM55.name → ∃ time, core.Admits instructions time) ∧
      (core.name = cortexM55.name →
        ((∃ time, core.Admits instructions time) ↔
            ∀ position total,
              Chain (CortexM55.flowDemands instructions) position position total → total ≤ 0) ∧
          (CortexM55.PairsAlone instructions → ∃ time, core.Admits instructions time)) := by
  constructor
  · intro other
    exact ⟨_, admits_of_mem_builtin listed other known⟩
  · intro named
    rcases eq_cortexM55_of_name listed named with rfl
    exact ⟨CortexM55.exists_admits_iff known, fun alone => ⟨_, alone.admits known⟩⟩

/-- Two accumulations into one register, which one of the cores pairs. -/
theorem exists_admits_pair :
    let first : Instruction := ⟨.registerForm "vmla" .vmla "vmla" (some .integer) [] [.vector]
      [.vector, .gpr], ["q0", "q1", "r0"], rfl, some "s32", none⟩
    let second : Instruction := ⟨.registerForm "vmla" .vmla "vmla" (some .integer) [] [.vector]
      [.vector, .gpr], ["q0", "q2", "r1"], rfl, some "s32", none⟩
    (∀ instruction ∈ [first, second], instruction.variant ∈ cortexM55.dialect.variants) ∧
      CortexM55.HandsOver [first, second] 0 1 ∧
      CortexM55.PairsAlone [first, second] ∧
      (∃ time, cortexM55.Admits [first, second] time) ∧
      ∃ time, cortexM85.Admits [first, second] time := by
  intro first second
  have known : ∀ instruction ∈ [first, second],
      instruction.variant ∈ cortexM55.dialect.variants := by
    decide
  have handed : CortexM55.HandsOver [first, second] 0 1 :=
    ⟨0, first, second, .of_next rfl rfl rfl (by decide), by decide, by decide⟩
  have alone : CortexM55.PairsAlone [first, second] := by
    intro source target pair index other producer consumer flow
    rcases pair with ⟨_, _, _, pairFlow, -⟩
    have pairInside := pairFlow.target_lt
    have pairForward := pairFlow.forward
    have inside := flow.target_lt
    have forward := flow.forward
    simp only [List.length_cons, List.length_nil] at pairInside inside
    omega
  exact ⟨known, handed, alone,
    ((exists_admits cortexM55 CortexM55.mem_builtin _ known).2 rfl).2 alone,
    (exists_admits cortexM85 (by simp [builtin]) _ known).1 (by decide)⟩

/-- An accumulation that another instruction reads on the way to its partner, which
waits for both. The way over the sum takes three cycles and the direct one exactly
two. -/
theorem not_admits_bridged :
    let first : Instruction := ⟨.registerForm "vmla" .vmla "vmla" (some .integer) [] [.vector]
      [.vector, .gpr], ["q0", "q1", "r0"], rfl, some "s32", none⟩
    let sum : Instruction := ⟨.registerForm "vadd" .vadd "vadd" (some .any) [.vector] []
      [.vector, .vector], ["q2", "q0", "q0"], rfl, some "s32", none⟩
    let second : Instruction := ⟨.registerForm "vmla" .vmla "vmla" (some .integer) [] [.vector]
      [.vector, .gpr], ["q0", "q2", "r1"], rfl, some "s32", none⟩
    cortexM55 ∈ builtin ∧
      Assembly.parseLine cortexM55.dialect "vmla.s32 q0, q1, r0" = .ok [first] ∧
      Assembly.parseLine cortexM55.dialect "vadd.s32 q2, q0, q0" = .ok [sum] ∧
      Assembly.parseLine cortexM55.dialect "vmla.s32 q0, q2, r1" = .ok [second] ∧
      ¬ ∃ time, cortexM55.Admits [first, sum, second] time := by
  intro first sum second
  refine ⟨CortexM55.mem_builtin,
    (Assembly.parseLine_eq_ok_iff _ _ _).mpr ⟨by simp, by decide +kernel⟩,
    (Assembly.parseLine_eq_ok_iff _ _ _).mpr ⟨by simp, by decide +kernel⟩,
    (Assembly.parseLine_eq_ok_iff _ _ _).mpr ⟨by simp, by decide +kernel⟩, ?_⟩
  rintro ⟨time, admitted⟩
  have toSum : Flow [first, sum, second] 0 0 1 first sum :=
    .of_next rfl rfl rfl (by decide)
  have fromSum : Flow [first, sum, second] 1 0 2 sum second :=
    .of_next rfl rfl rfl (by decide)
  have direct : Flow [first, sum, second] 0 0 2 first second := by
    refine ⟨rfl, rfl, by omega, "q0", rfl, by decide, ?_⟩
    intro position between after before atPosition other written
    obtain rfl : position = 1 := by omega
    cases atPosition
    have register := List.mem_of_getElem? written
    revert register
    decide
  rcases admitted.flows _ _ _ _ _ toSum with ⟨toLatency, toFound, toWaited, -⟩
  rcases admitted.flows _ _ _ _ _ fromSum with ⟨fromLatency, fromFound, fromWaited, -⟩
  rcases admitted.flows _ _ _ _ _ direct with ⟨latency, found, -, holds⟩
  have toPlain : cortexM55.latency first 0 sum = .ok (.plain 2) := by decide +kernel
  have fromPlain : cortexM55.latency sum 0 second = .ok (.plain 1) := by decide +kernel
  have paired : cortexM55.latency first 0 second = .ok (.paired 2 (.exactly 2)) := by
    decide +kernel
  cases toFound.symm.trans toPlain
  cases fromFound.symm.trans fromPlain
  cases found.symm.trans paired
  have apart := holds _ rfl
  simp only [Relation.Holds, Latency.cycles] at apart toWaited fromWaited
  omega

end Core

end IssueTiming
