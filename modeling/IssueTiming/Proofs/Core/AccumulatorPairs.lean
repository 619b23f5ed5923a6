import IssueTiming.Proofs.Core.Coverage
import IssueTiming.Proofs.Schedule.Admission

/-!
# Accumulations at an exact distance

On the Cortex-M55 a multiply-accumulate issues exactly two cycles after the one
whose accumulator it takes. Such a pair cannot wait for a slower way from one to
the other, so a program has a schedule only if no closed chain of what its flows
demand has a positive total. Where the first of a pair feeds nothing else, there
is no other way.
-/

namespace IssueTiming

namespace CortexM55

variable {instructions : List Instruction}

/-! ## Latencies -/

/-- A multiply-accumulate writes the accumulator of a later one. -/
def Accumulates (producer : Instruction) (index : Nat) (consumer : Instruction) : Prop :=
  producer.opcode = .vmla ∧ producer.feedsAccumulator index consumer = true

theorem refine_eq_of_accumulates {producer consumer : Instruction} {index : Nat}
    (pair : Accumulates producer index consumer) (baseline : Nat) :
    refine producer index consumer baseline = .paired 2 (.exactly 2) := by
  simp [refine, pair.1, pair.2]

theorem exists_refine_eq_plain {producer consumer : Instruction} {index baseline : Nat}
    (separate : ¬ Accumulates producer index consumer) (short : baseline ≤ 5) :
    ∃ cycles ≤ 5, refine producer index consumer baseline = .plain cycles := by
  unfold refine
  split
  · next feeds =>
    rw [if_neg fun accumulation => separate ⟨accumulation, feeds⟩]
    split
    · exact ⟨1, by omega, rfl⟩
    · exact ⟨baseline, short, rfl⟩
  · exact ⟨baseline, short, rfl⟩

theorem mem_builtin : cortexM55 ∈ Core.builtin :=
  List.mem_cons_self

theorem latency_cases {producer consumer : Instruction} {index : Nat} {latency : Latency}
    (found : cortexM55.latency producer index consumer = .ok latency) :
    (Accumulates producer index consumer ∧ latency = .paired 2 (.exactly 2)) ∨
      (¬ Accumulates producer index consumer ∧ ∃ cycles ≤ 5, latency = .plain cycles) := by
  rcases (map_eq_ok_iff _ _ _).mp found with ⟨baseline, looked, rfl⟩
  by_cases pair : Accumulates producer index consumer
  · exact .inl ⟨pair, refine_eq_of_accumulates pair baseline⟩
  · exact .inr ⟨pair, exists_refine_eq_plain pair (Core.baseLatency_le mem_builtin looked)⟩

theorem exists_latency {producer : Instruction} (known : producer.variant ∈ helium.variants)
    (index : Nat) (consumer : Instruction) :
    ∃ latency, cortexM55.latency producer index consumer = .ok latency := by
  rcases Core.exists_baseLatency mem_builtin known with ⟨baseline, looked, -⟩
  exact ⟨_, Core.latency_eq_ok looked index consumer⟩

/-- What of a variant makes an instruction a store keeps it from accumulating. -/
theorem opcode_ne_of_isAnyStore {store : Instruction} (known : store.variant ∈ helium.variants)
    (isStore : store.isAnyStore = true) : store.opcode ≠ .vmla := by
  have separate : ∀ variant ∈ helium.variants,
      (variant.memory == some .store || variant.opcode.isStackStore) = true →
        variant.opcode ≠ .vmla := by
    decide
  exact separate store.variant known isStore

theorem index_eq_zero {accumulation : Instruction} {index : Nat} {register : String}
    (known : accumulation.variant ∈ helium.variants) (opcode : accumulation.opcode = .vmla)
    (written : accumulation.written? index = some register) : index = 0 := by
  have single : ∀ variant ∈ helium.variants, variant.opcode = .vmla →
      variant.writtenCount = 1 := by
    decide
  rcases List.getElem?_eq_some_iff.mp written with ⟨inside, -⟩
  rw [List.length_take, single _ known opcode] at inside
  omega

/-! ## What the flows demand -/

/-- A consumer waits for what flows to it. The later of a pair at an exact distance
does not wait any longer. -/
inductive FlowDemand (instructions : List Instruction) : Demand → Prop
  | delay {source index target : Nat} {producer consumer : Instruction} {latency : Latency} :
      Flow instructions source index target producer consumer →
      cortexM55.latency producer index consumer = .ok latency →
      FlowDemand instructions ⟨source, target, latency.cycles⟩
  | rejoin {source index target distance : Nat} {producer consumer : Instruction}
      {latency : Latency} :
      Flow instructions source index target producer consumer →
      cortexM55.latency producer index consumer = .ok latency →
      latency.relation? = some (.exactly distance) →
      FlowDemand instructions ⟨target, source, -distance⟩

def flowDemands (instructions : List Instruction) : Set Demand :=
  {demand | FlowDemand instructions demand}

theorem FlowDemand.bounded {demand : Demand} (asked : FlowDemand instructions demand) :
    demand.first < instructions.length ∧ demand.second < instructions.length ∧
      demand.cycles ∈ Set.Icc (-2) 5 := by
  cases asked with
  | delay flow found =>
      refine ⟨flow.source_lt, flow.target_lt, ?_⟩
      rcases latency_cases found with ⟨-, rfl⟩ | ⟨-, cycles, short, rfl⟩
      · simp [Latency.cycles]
      · simp only [Latency.cycles, Set.mem_Icc]
        omega
  | rejoin flow found related =>
      refine ⟨flow.target_lt, flow.source_lt, ?_⟩
      rcases latency_cases found with ⟨-, rfl⟩ | ⟨-, cycles, -, rfl⟩
      · cases related
        simp
      · cases related

theorem finite_flowDemands (instructions : List Instruction) :
    (flowDemands instructions).Finite :=
  finite_of_bounded fun _ asked => FlowDemand.bounded asked

/-- The core admits the times that meet what the flows demand. -/
theorem admits_iff (known : ∀ instruction ∈ instructions, instruction.variant ∈ helium.variants)
    (time : Nat → Int) :
    cortexM55.Admits instructions time ↔ ∀ demand ∈ flowDemands instructions, demand.Met time := by
  constructor
  · intro admitted demand asked
    cases asked with
    | delay flow found =>
        rcases admitted.flows _ _ _ _ _ flow with ⟨_, again, waited, -⟩
        cases found.symm.trans again
        exact waited
    | rejoin flow found related =>
        rcases admitted.flows _ _ _ _ _ flow with ⟨_, again, -, holds⟩
        cases found.symm.trans again
        have apart := holds _ related
        simp only [Relation.Holds] at apart
        simp only [Demand.Met]
        omega
  · intro met
    constructor
    · intro source index target producer consumer flow
      rcases exists_latency (known _ (List.mem_of_getElem? flow.produced)) index consumer with
        ⟨latency, found⟩
      have waited := met _ (.delay flow found)
      refine ⟨latency, found, waited, ?_⟩
      intro relation related
      rcases latency_cases found with ⟨-, rfl⟩ | ⟨-, cycles, -, rfl⟩
      · cases related
        have returned := met _ (.rejoin flow found rfl)
        simp only [Demand.Met, Latency.cycles] at waited returned
        simp only [Relation.Holds]
        omega
      · cases related
    · intro first second earlier later _ atFirst _ isStore _
      have knownFirst := known _ (List.mem_of_getElem? atFirst)
      rcases exists_latency knownFirst 0 later with ⟨latency, found⟩
      refine ⟨latency, found, ?_⟩
      intro relation related
      rcases latency_cases found with ⟨pair, -⟩ | ⟨-, cycles, -, rfl⟩
      · exact absurd pair.1 (opcode_ne_of_isAnyStore knownFirst isStore)
      · cases related
    · intro first second relation installed
      cases installed

theorem exists_admits_iff
    (known : ∀ instruction ∈ instructions, instruction.variant ∈ helium.variants) :
    (∃ time, cortexM55.Admits instructions time) ↔
      ∀ position total, Chain (flowDemands instructions) position position total → total ≤ 0 :=
  (exists_congr (admits_iff known)).trans (exists_met_iff (finite_flowDemands instructions))

/-! ## Pairs that feed nothing else -/

/-- A register flows from the first of a pair of accumulations to the second. -/
def HandsOver (instructions : List Instruction) (source target : Nat) : Prop :=
  ∃ index producer consumer,
    Flow instructions source index target producer consumer ∧ Accumulates producer index consumer

/-- The accumulator of a pair flows to the second of the pair only. -/
def PairsAlone (instructions : List Instruction) : Prop :=
  ∀ source target, HandsOver instructions source target →
    ∀ index other producer consumer,
      Flow instructions source index other producer consumer → other = target

open Classical in
/-- Issue times at a distance of five cycles, where an accumulation that hands its
accumulator over is put off until two cycles before the one that takes it. -/
noncomputable def pairedTime (instructions : List Instruction) (position : Nat) : Int :=
  if paired : ∃ target, HandsOver instructions position target then
    pairedTime instructions paired.choose - 2
  else 5 * position
termination_by instructions.length - position
decreasing_by
  rcases paired.choose_spec with ⟨_, _, _, flow, -⟩
  have inside := flow.target_lt
  have forward := flow.forward
  omega

theorem le_pairedTime (instructions : List Instruction) (position : Nat) :
    5 * position ≤ pairedTime instructions position := by
  induction position using pairedTime.induct instructions with
  | case1 position paired induction =>
      rcases paired.choose_spec with ⟨_, _, _, flow, -⟩
      have forward := flow.forward
      rw [pairedTime, dif_pos paired]
      omega
  | case2 position single =>
      rw [pairedTime, dif_neg single]

theorem PairsAlone.pairedTime_eq (alone : PairsAlone instructions) {source target : Nat}
    (handed : HandsOver instructions source target) :
    pairedTime instructions source = pairedTime instructions target - 2 := by
  have paired : ∃ target, HandsOver instructions source target := ⟨target, handed⟩
  rcases paired.choose_spec with ⟨_, _, _, flow, -⟩
  rw [pairedTime, dif_pos paired, alone source target handed _ _ _ _ flow]

/-- An accumulation writes one register, so all that flows from it to its partner is
the accumulator. -/
theorem HandsOver.accumulates {source target index : Nat} {producer consumer : Instruction}
    (handed : HandsOver instructions source target)
    (known : ∀ instruction ∈ instructions, instruction.variant ∈ helium.variants)
    (flow : Flow instructions source index target producer consumer) :
    Accumulates producer index consumer := by
  rcases handed with ⟨first, _, _, pairFlow, pair⟩
  cases flow.produced.symm.trans pairFlow.produced
  cases flow.consumed.symm.trans pairFlow.consumed
  have knownProducer := known producer (List.mem_of_getElem? flow.produced)
  rcases pairFlow.carried with ⟨_, pairWritten, -⟩
  rcases flow.carried with ⟨_, written, -⟩
  rcases index_eq_zero knownProducer pair.1 pairWritten with rfl
  rcases index_eq_zero knownProducer pair.1 written with rfl
  exact pair

theorem PairsAlone.admits (alone : PairsAlone instructions)
    (known : ∀ instruction ∈ instructions, instruction.variant ∈ helium.variants) :
    cortexM55.Admits instructions (pairedTime instructions) := by
  refine (admits_iff known _).mpr ?_
  intro demand asked
  cases asked with
  | @delay source index target producer consumer latency flow found =>
      simp only [Demand.Met]
      by_cases paired : ∃ next, HandsOver instructions source next
      · rcases paired with ⟨next, handed⟩
        rcases alone source next handed _ _ _ _ flow with rfl
        have distance := alone.pairedTime_eq handed
        rcases latency_cases found with ⟨-, rfl⟩ | ⟨separate, -⟩
        · simp only [Latency.cycles]
          omega
        · exact absurd (handed.accumulates known flow) separate
      · rcases latency_cases found with ⟨pair, -⟩ | ⟨-, cycles, short, rfl⟩
        · exact absurd ⟨target, _, _, _, flow, pair⟩ paired
        · have later := le_pairedTime instructions target
          have forward := flow.forward
          rw [pairedTime, dif_neg paired]
          simp only [Latency.cycles]
          omega
  | rejoin flow found related =>
      rcases latency_cases found with ⟨pair, rfl⟩ | ⟨-, cycles, -, rfl⟩
      · cases related
        have distance := alone.pairedTime_eq ⟨_, _, _, flow, pair⟩
        simp only [Demand.Met]
        omega
      · cases related

end CortexM55

end IssueTiming
