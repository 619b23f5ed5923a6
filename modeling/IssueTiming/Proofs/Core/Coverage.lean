import IssueTiming.Core.Catalogue
import IssueTiming.Proofs.Outcome
import IssueTiming.Proofs.Timing.RuleTables
import IssueTiming.Proofs.Timing.UnitSets

/-!
# Every instruction of a core has its costs

The tables of the built-in cores are uniform, so it is enough to price one
instruction of every variant with a floating-point suffix and one without. What
the tables answer for these, they answer for all instructions of the dialect.
-/

namespace IssueTiming

/-! ## Samples -/

namespace Instruction

/-- An instruction of a variant, with or without a floating-point suffix. -/
def sample (variant : Variant) (float : Bool) : Instruction where
  variant
  operands := List.replicate variant.operandCount ""
  operands_length := List.length_replicate
  suffix := if float then some "f32" else none
  address := none

theorem alike_sample (instruction : Instruction) :
    instruction.Alike (sample instruction.variant (instruction.suffix.any isFloatSuffix)) := by
  refine ⟨rfl, rfl, ?_⟩
  cases float : instruction.suffix.any isFloatSuffix
  · rfl
  · change true = isFloatSuffix "f32"
    decide

end Instruction

/-! ## Tables -/

namespace CostTables

/-- The keys of all three tables are uniform. -/
structure AllUniform (tables : CostTables) : Prop where
  units : ∀ rule ∈ tables.units.rules, Uniform rule.1.covers
  inverseThroughput : ∀ rule ∈ tables.inverseThroughput.rules, Uniform rule.1.covers
  latency : ∀ rule ∈ tables.latency.rules, Uniform rule.1.covers

/-- The tables price an instruction: it needs units it can have, and it takes at
least one cycle. -/
structure Prices (tables : CostTables) (unitCount : Nat) (instruction : Instruction) : Prop where
  units : ∃ requirement ∈ tables.units.lookup instruction, requirement.Coherent unitCount
  inverseThroughput : ∃ cycles ∈ tables.inverseThroughput.lookup instruction, 1 ≤ cycles
  latency : ∃ cycles ∈ tables.latency.lookup instruction, 1 ≤ cycles

instance (tables : CostTables) (unitCount : Nat) (instruction : Instruction) :
    Decidable (tables.Prices unitCount instruction) :=
  decidable_of_iff
    ((∃ requirement ∈ tables.units.lookup instruction, requirement.Coherent unitCount) ∧
      (∃ cycles ∈ tables.inverseThroughput.lookup instruction, 1 ≤ cycles) ∧
      ∃ cycles ∈ tables.latency.lookup instruction, 1 ≤ cycles)
    ⟨fun parts => ⟨parts.1, parts.2.1, parts.2.2⟩,
      fun prices => ⟨prices.units, prices.inverseThroughput, prices.latency⟩⟩

theorem Prices.of_alike {tables : CostTables} (uniform : tables.AllUniform) {unitCount : Nat}
    {left right : Instruction} (alike : left.Alike right) (prices : tables.Prices unitCount right) :
    tables.Prices unitCount left := by
  rcases prices with ⟨units, inverseThroughput, latency⟩
  rw [← RuleTable.lookup_eq_of_alike uniform.units alike] at units
  rw [← RuleTable.lookup_eq_of_alike uniform.inverseThroughput alike] at inverseThroughput
  rw [← RuleTable.lookup_eq_of_alike uniform.latency alike] at latency
  exact ⟨units, inverseThroughput, latency⟩

end CostTables

/-! ## Cores -/

namespace Core

theorem mem_builtin_iff (core : Core) : core ∈ builtin ↔
    core = cortexM55 ∨ core = cortexM85 ∨ core = cortexA55 ∨ core = cortexA72 ∨
      core = neoverseN1 ∨ core = firestorm ∨ core = icestorm := by
  simp [builtin]

theorem uniform_of_mem_builtin {core : Core} (listed : core ∈ builtin) :
    core.tables.AllUniform := by
  rcases (mem_builtin_iff _).mp listed with rfl | rfl | rfl | rfl | rfl | rfl | rfl
  · constructor <;> simp [cortexM55, CortexM55.tables, CostTables.ofRules]
  · constructor <;> simp [cortexM85, CortexM85.tables, CostTables.ofRules]
  · constructor <;> simp [cortexA55, CortexA55.tables, CostTables.ofRules]
  · constructor <;> simp [cortexA72, CortexA72.tables, CostTables.ofRules]
  · constructor <;> simp [neoverseN1, NeoverseN1.tables, CostTables.ofRules]
  · constructor <;> simp [firestorm, Firestorm.tables, CostTables.ofRules]
  · constructor <;> simp [icestorm, Icestorm.tables, CostTables.ofRules]

theorem prices_sample : ∀ core ∈ builtin, ∀ variant ∈ core.dialect.variants, ∀ float,
    core.tables.Prices core.unitNames.length (.sample variant float) := by
  decide +kernel

/-- A built-in core prices every instruction of its dialect. -/
theorem prices_of_mem_builtin {core : Core} (listed : core ∈ builtin) {instruction : Instruction}
    (known : instruction.variant ∈ core.dialect.variants) :
    core.tables.Prices core.unitNames.length instruction :=
  .of_alike (uniform_of_mem_builtin listed) instruction.alike_sample
    (prices_sample core listed _ known _)

theorem latency_eq_ok {core : Core} {source : Instruction} {baseline : Nat}
    (found : core.baseLatency source = .ok baseline) (index : Nat) (target : Instruction) :
    core.latency source index target = .ok (core.refine source index target baseline) :=
  (map_eq_ok_iff _ _ _).mpr ⟨baseline, found, rfl⟩

theorem exists_baseLatency {core : Core} (listed : core ∈ builtin) {source : Instruction}
    (known : source.variant ∈ core.dialect.variants) :
    ∃ baseline, core.baseLatency source = .ok baseline ∧ 1 ≤ baseline := by
  rcases (prices_of_mem_builtin listed known).latency with ⟨baseline, delayed, positive⟩
  exact ⟨baseline, (RuleTable.resolve_eq_ok_iff _ _ _).mpr delayed, positive⟩

theorem latencies_le : ∀ core ∈ builtin, core.tables.latency.fallback = none ∧
    ∀ cycles ∈ core.tables.latency.rules.map Prod.snd, cycles ≤ 5 := by
  decide

theorem baseLatency_le {core : Core} (listed : core ∈ builtin) {source : Instruction}
    {baseline : Nat} (found : core.baseLatency source = .ok baseline) : baseline ≤ 5 := by
  rcases latencies_le core listed with ⟨noFallback, short⟩
  rcases RuleTable.mem_of_lookup_eq_some ((RuleTable.resolve_eq_ok_iff _ _ _).mp found) with
    ruled | fallback
  · exact short baseline ruled
  · exact absurd (noFallback.symm.trans fallback) (by simp)

/-- Every question about the costs of an instruction has an answer on the cores of
its dialect. What is asked about a producer holds for any consumer. -/
theorem exists_costs (core : Core) (listed : core ∈ builtin) (source target : Instruction)
    (known : source.variant ∈ core.dialect.variants) (index : Nat) :
    ∃ requirement throughput baseline latency,
      core.units source = .ok requirement ∧
      core.inverseThroughput source = .ok throughput ∧
      core.baseLatency source = .ok baseline ∧
      core.latency source index target = .ok latency ∧
      1 ≤ throughput ∧ 1 ≤ baseline ∧
      requirement.Coherent core.unitNames.length ∧
      ∃ occupied : List Nat,
        List.Forall₂ (fun set unit => set.contains unit = true) requirement.sets occupied ∧
          occupied.Nodup := by
  have prices := prices_of_mem_builtin listed known
  rcases prices.units with ⟨requirement, needs, coherent⟩
  rcases prices.inverseThroughput with ⟨throughput, spaced, throughputPositive⟩
  rcases exists_baseLatency listed known with ⟨baseline, found, baselinePositive⟩
  rcases UnitRequirement.exists_occupied coherent.inhabited coherent.apart with
    ⟨occupied, chosen, different, -⟩
  exact ⟨requirement, throughput, baseline, core.refine source index target baseline,
    (RuleTable.resolve_eq_ok_iff _ _ _).mpr needs, (RuleTable.resolve_eq_ok_iff _ _ _).mpr spaced,
    found, latency_eq_ok found index target, throughputPositive, baselinePositive, coherent,
    occupied, chosen, different⟩

/-- A store whose operands name no registers and whose suffix is none of its kind. -/
theorem exists_costs_store :
    let store : Instruction := ⟨.memoryForm "vstrw" .vstrw "vstrw" (some .word) .store []
      [.vector, .gpr], ["?", ""], rfl, some "f", none⟩
    store.variant ∈ cortexM85.dialect.variants ∧
      ∃ requirement throughput baseline latency,
        cortexM85.units store = .ok requirement ∧
        cortexM85.inverseThroughput store = .ok throughput ∧
        cortexM85.baseLatency store = .ok baseline ∧
        cortexM85.latency store 7 store = .ok latency ∧
        1 ≤ throughput ∧ 1 ≤ baseline ∧ requirement.Coherent 8 ∧
        ∃ occupied : List Nat,
          List.Forall₂ (fun set unit => set.contains unit = true) requirement.sets occupied ∧
            occupied.Nodup := by
  intro store
  have known : store.variant ∈ cortexM85.dialect.variants := by decide
  exact ⟨known, exists_costs cortexM85 (by simp [builtin]) store store known 7⟩

end Core

end IssueTiming
