import IssueTiming.Proofs.Assembly.LineReading
import IssueTiming.Proofs.Core.Coverage

/-!
# Ways into accumulators

Some cores hand the result of a multiply to the accumulator of a later
multiply-accumulate sooner than to any other operand. Nothing else makes a latency
shorter than the baseline of its producer, nothing makes it longer, and nothing else
ties two instructions to an exact distance. Whether the consumer reads the register a
second time, as an ordinary operand, plays no part in it.
-/

namespace IssueTiming

/-! ## The register that is handed over -/

namespace Instruction

theorem feedsAccumulator_iff (source : Instruction) (index : Nat) (target : Instruction) :
    source.feedsAccumulator index target = true ↔
      target.isMultiplyAccumulate = true ∧ ∃ register,
        source.written? index = some register ∧ target.inOuts.head? = some register := by
  rw [feedsAccumulator, Bool.and_eq_true]
  apply and_congr_right
  intro _
  cases source.written? index with
  | none => simp
  | some register =>
      cases target.inOuts.head? with
      | none => simp
      | some accumulator => simpa using eq_comm

/-- Beyond the registers that an instruction writes there is nothing to hand over. -/
theorem feedsAccumulator_eq_false_of_le {source : Instruction} {index : Nat}
    (beyond : source.variant.writtenCount ≤ index) (target : Instruction) :
    source.feedsAccumulator index target = false := by
  have unwritten : source.written? index = none := by
    apply List.getElem?_eq_none
    exact (List.length_take_le _ _).trans beyond
  simp [feedsAccumulator, unwritten]

/-- An instruction without operands that has the given traits. -/
def ofTraits (opcode : Opcode) (memory : Option MemoryAccess) (float : Bool) : Instruction :=
  sample ⟨"", opcode, "", none, [], [], [], memory⟩ float

theorem alike_ofTraits (instruction : Instruction) :
    instruction.Alike (ofTraits instruction.opcode instruction.variant.memory
      (instruction.suffix.any isFloatSuffix)) :=
  ⟨rfl, rfl, instruction.alike_sample.float⟩

end Instruction

/-- A consumer reads the register that a producer writes at an index in a slot that it
only reads. -/
structure OrdinaryRead (source : Instruction) (index : Nat) (target : Instruction)
    (register : String) : Prop where
  written : source.written? index = some register
  read : register ∈ target.inputs

namespace Core

/-! ## The ways of the cores -/

/-- The cycles after which a core hands the result of a producer to an accumulator,
where it has a way of its own for that. -/
def forwarding? (core : Core) (source : Instruction) : Option Nat :=
  if core.name = cortexM55.name then
    if source.opcode = .vmla then some 2
    else if source.isVectorMul && !source.isFloat then some 1
    else none
  else if core.name = cortexA55.name then
    if source.opcode = .mulV ∨ source.opcode = .mla then some 1 else none
  else if core.name = cortexA72.name then
    if source.opcode = .mla then some 2 else none
  else if core.name = neoverseN1.name then
    if source.opcode = .mla then some 1 else none
  else none

theorem forwarding?_eq_of_alike (core : Core) {left right : Instruction}
    (alike : left.Alike right) : core.forwarding? left = core.forwarding? right := by
  have multiply := Instruction.uniform_isVectorMul left right alike
  have float := Instruction.uniform_isFloat left right alike
  simp only [forwarding?, alike.opcode, multiply, float]

/-- The traits of a producer settle its baseline and its way into accumulators, so all
of them can be tried. -/
theorem forwarding_ofTraits : ∀ core ∈ builtin, ∀ opcode ∈ Opcode.all,
    ∀ memory ∈ [none, some .load, some .store], ∀ float,
      ∀ baseline ∈ core.tables.latency.lookup (.ofTraits opcode memory float),
        1 ≤ baseline ∧ ∀ cycles ∈ core.forwarding? (.ofTraits opcode memory float),
          opcode.isVectorMul = true ∧ 1 ≤ cycles ∧ cycles ≤ baseline := by
  decide +kernel

/-- A baseline is positive, and only vector multiplies have a way of their own, which
is no longer than the baseline. -/
theorem forwarding_of_baseLatency {core : Core} (listed : core ∈ builtin) {source : Instruction}
    {baseline : Nat} (found : core.baseLatency source = .ok baseline) :
    1 ≤ baseline ∧ ∀ cycles ∈ core.forwarding? source,
      source.isVectorMul = true ∧ 1 ≤ cycles ∧ cycles ≤ baseline := by
  have alike := source.alike_ofTraits
  have priced := (RuleTable.resolve_eq_ok_iff _ _ _).mp found
  rw [RuleTable.lookup_eq_of_alike (uniform_of_mem_builtin listed).latency alike] at priced
  rw [forwarding?_eq_of_alike core alike]
  apply forwarding_ofTraits core listed _ (Opcode.mem_all _) _ ?_ _ _ priced
  cases source.variant.memory with
  | none => simp
  | some access => cases access <;> simp

/-! ## Refined latencies -/

/-- All that a core makes of the baseline of a producer for one of its consumers. -/
inductive Refined (core : Core) (source : Instruction) (index : Nat) (target : Instruction)
    (baseline : Nat) : Latency → Prop
  | waits : (source.feedsAccumulator index target = true → core.forwarding? source = none) →
      Refined core source index target baseline (.plain baseline)
  | handsOver {cycles : Nat} : source.feedsAccumulator index target = true →
      core.forwarding? source = some cycles →
      Refined core source index target baseline (.plain cycles)
  | chains {cycles : Nat} : source.feedsAccumulator index target = true →
      core.forwarding? source = some cycles →
      Refined core source index target baseline (.paired cycles (.exactly cycles))
  | spreads {distance : Nat} : source.feedsAccumulator index target = false →
      Refined core source index target baseline (.paired baseline (.apart distance))

section

variable {core : Core} {source target : Instruction} {index baseline : Nat}

theorem Refined.ite_plain {cycles : Nat} {condition : Prop} [Decidable condition]
    (ways : core.forwarding? source = if condition then some cycles else none) :
    core.Refined source index target baseline
      (if condition ∧ source.feedsAccumulator index target = true then .plain cycles
        else .plain baseline) := by
  split
  · next met =>
    rw [if_pos met.1] at ways
    exact .handsOver met.2 ways
  · next unmet =>
    refine .waits fun feeds => ?_
    rw [ways, if_neg fun met => unmet ⟨met, feeds⟩]

theorem refined_refine (listed : core ∈ builtin) (source : Instruction) (index : Nat)
    (target : Instruction) (baseline : Nat) :
    core.Refined source index target baseline (core.refine source index target baseline) := by
  rcases (mem_builtin_iff _).mp listed with rfl | rfl | rfl | rfl | rfl | rfl | rfl
  · change cortexM55.Refined _ _ _ _ (CortexM55.refine source index target baseline)
    have ways : cortexM55.forwarding? source = if source.opcode = .vmla then some 2
      else if source.isVectorMul && !source.isFloat then some 1 else none := rfl
    unfold CortexM55.refine
    split
    · next feeds =>
      split
      · next accumulation =>
        rw [if_pos accumulation] at ways
        exact .chains feeds ways
      · next other =>
        rw [if_neg other] at ways
        split
        · next multiply =>
          rw [if_pos multiply] at ways
          exact .handsOver feeds ways
        · next other =>
          rw [if_neg other] at ways
          exact .waits fun _ => ways
    · next separate => exact .waits fun feeds => absurd feeds separate
  · change cortexM85.Refined _ _ _ _ (CortexM85.refine source index target baseline)
    unfold CortexM85.refine
    split
    · next stores =>
      -- A store accumulates nothing.
      refine .spreads ?_
      simp [Instruction.feedsAccumulator, Instruction.isMultiplyAccumulate, stores.2,
        Opcode.isMultiplyAccumulate]
    · exact .waits fun _ => rfl
  · exact .ite_plain rfl
  · exact .ite_plain rfl
  · exact .ite_plain rfl
  · exact .waits fun _ => rfl
  · exact .waits fun _ => rfl

namespace Refined

variable {latency : Latency}

theorem cycles_mem (refined : core.Refined source index target baseline latency)
    (listed : core ∈ builtin) (found : core.baseLatency source = .ok baseline) :
    1 ≤ latency.cycles ∧ latency.cycles ≤ baseline := by
  rcases forwarding_of_baseLatency listed found with ⟨positive, ways⟩
  cases refined with
  | waits => exact ⟨positive, le_rfl⟩
  | handsOver feeds way => exact (ways _ way).2
  | chains feeds way => exact (ways _ way).2
  | spreads => exact ⟨positive, le_rfl⟩

theorem cycles_lt_iff (refined : core.Refined source index target baseline latency) :
    latency.cycles < baseline ↔ source.feedsAccumulator index target = true ∧
      ∃ cycles ∈ core.forwarding? source, cycles < baseline := by
  cases refined with
  | waits ways =>
      simp only [Latency.cycles, lt_irrefl, false_iff, not_and]
      intro feeds
      simp [ways feeds]
  | handsOver feeds way => simp [Latency.cycles, feeds, way]
  | chains feeds way => simp [Latency.cycles, feeds, way]
  | spreads separate => simp [Latency.cycles, separate]

/-- Only a chain is tied to an exact distance, and by the cycles of its latency. -/
theorem of_exactly (refined : core.Refined source index target baseline latency)
    {distance : Nat} (exact : latency.relation? = some (.exactly distance)) :
    source.feedsAccumulator index target = true ∧ core.forwarding? source = some distance ∧
      latency.cycles = distance := by
  cases refined with
  | waits => cases exact
  | handsOver => cases exact
  | chains feeds way =>
      cases exact
      exact ⟨feeds, way, rfl⟩
  | spreads => cases exact

/-- A latency that is shorter than the baseline, or tied to an exact distance, goes from
a multiply to an accumulator. -/
theorem accumulates (refined : core.Refined source index target baseline latency)
    (listed : core ∈ builtin) (found : core.baseLatency source = .ok baseline)
    (special : latency.cycles < baseline ∨
      ∃ distance, latency.relation? = some (.exactly distance)) :
    source.isVectorMul = true ∧ source.feedsAccumulator index target = true := by
  have ways := (forwarding_of_baseLatency listed found).2
  rcases special with shorter | ⟨distance, exact⟩
  · rcases refined.cycles_lt_iff.mp shorter with ⟨feeds, cycles, way, -⟩
    exact ⟨(ways cycles way).1, feeds⟩
  · rcases refined.of_exactly exact with ⟨feeds, way, -⟩
    exact ⟨(ways distance way).1, feeds⟩

end Refined

end

/-- A latency fails as its baseline fails, and else lies between one cycle and the
baseline. It is shorter, or the distance exact, only for a multiply whose result a
multiply-accumulate takes as its accumulator; so it is the baseline for every index
beyond the written registers. An exact distance leaves room for the latency. -/
theorem latency_refines_baseLatency (core : Core) (listed : core ∈ builtin)
    (source target : Instruction) (index : Nat) :
    (∀ failure, core.latency source index target = .error failure ↔
        core.baseLatency source = .error failure) ∧
      ∀ baseline, core.baseLatency source = .ok baseline →
        ∃ latency, core.latency source index target = .ok latency ∧
          1 ≤ latency.cycles ∧ latency.cycles ≤ baseline ∧
          (latency.cycles < baseline ∨
              (∃ distance, latency.relation? = some (.exactly distance)) →
            source.isVectorMul = true ∧ target.isMultiplyAccumulate = true ∧
              ∃ register, source.written? index = some register ∧
                target.inOuts.head? = some register) ∧
          (source.variant.writtenCount ≤ index →
            latency.cycles = baseline ∧
              ∀ distance, latency.relation? ≠ some (.exactly distance)) ∧
          ∀ distance, latency.relation? = some (.exactly distance) → latency.cycles ≤ distance := by
  constructor
  · intro failure
    exact map_eq_error_iff _ _ _
  · intro baseline found
    have refined := refined_refine listed source index target baseline
    have within := refined.cycles_mem listed found
    refine ⟨_, latency_eq_ok found index target, within.1, within.2, ?_, ?_, ?_⟩
    · intro special
      rcases refined.accumulates listed found special with ⟨multiply, feeds⟩
      exact ⟨multiply, (source.feedsAccumulator_iff index target).mp feeds⟩
    · intro beyond
      have separate := Instruction.feedsAccumulator_eq_false_of_le beyond target
      have plain := mt (refined.accumulates listed found) fun feeds =>
        Bool.noConfusion (separate.symm.trans feeds.2)
      rw [not_or, not_lt, not_exists] at plain
      exact ⟨le_antisymm within.2 plain.1, plain.2⟩
    · intro distance exact
      exact (refined.of_exactly exact).2.2.le

/-- Two accumulations into one register, the first with a suffix of its own. -/
theorem latency_refines_baseLatency_chained :
    let first : Instruction := ⟨.registerForm "vmla" .vmla "vmla" (some .integer) [] [.vector]
      [.vector, .gpr], ["q0", "q1", "r0"], rfl, some "f", none⟩
    let second : Instruction := ⟨.registerForm "vmla" .vmla "vmla" (some .integer) [] [.vector]
      [.vector, .gpr], ["q0", "q2", "r1"], rfl, some "s32", none⟩
    cortexM55.baseLatency first = .ok 3 ∧
      ∃ latency, cortexM55.latency first 0 second = .ok latency ∧
        1 ≤ latency.cycles ∧ latency.cycles ≤ 3 ∧
        (latency.cycles < 3 ∨ (∃ distance, latency.relation? = some (.exactly distance)) →
          first.isVectorMul = true ∧ second.isMultiplyAccumulate = true ∧
            ∃ register, first.written? 0 = some register ∧
              second.inOuts.head? = some register) ∧
        ∀ distance, latency.relation? = some (.exactly distance) → latency.cycles ≤ distance := by
  intro first second
  have found : cortexM55.baseLatency first = .ok 3 := by decide +kernel
  rcases (latency_refines_baseLatency cortexM55 List.mem_cons_self first second 0).2 3 found with
    ⟨latency, refined, positive, within, accumulates, -, apart⟩
  exact ⟨found, latency, refined, positive, within, accumulates, apart⟩

/-! ## Reads of an ordinary operand -/

/-- A consumer that reads what a producer writes in a slot that it only reads waits for
the baseline, but for one case. If the same register is its accumulator and the core
has a faster way there, that way settles the latency for both reads. -/
theorem baseLatency_le_cycles_iff (core : Core) (listed : core ∈ builtin)
    (source target : Instruction) (known : source.variant ∈ core.dialect.variants)
    (index : Nat) (register : String) (read : OrdinaryRead source index target register) :
    ∃ baseline latency, core.baseLatency source = .ok baseline ∧
      core.latency source index target = .ok latency ∧
      (baseline ≤ latency.cycles ↔
        ¬(target.isMultiplyAccumulate = true ∧ target.inOuts.head? = some register ∧
          ∃ cycles ∈ core.forwarding? source, cycles < baseline)) := by
  rcases exists_baseLatency listed known with ⟨baseline, found, -⟩
  refine ⟨baseline, _, found, latency_eq_ok found index target, ?_⟩
  rw [← not_lt, (refined_refine listed source index target baseline).cycles_lt_iff,
    Instruction.feedsAccumulator_iff, read.written]
  simp [and_assoc]

/-- A multiply-accumulate whose result the next one only multiplies. -/
theorem baseLatency_le_cycles_multiplicand :
    let first : Instruction := ⟨.registerForm "mla" .mla "mla" none [] [.vector]
      [.vector, .vector], ["v0", "v1", "v2"], rfl, none, none⟩
    let second : Instruction := ⟨.registerForm "mla" .mla "mla" none [] [.vector]
      [.vector, .vector], ["v5", "v0", "v4"], rfl, none, none⟩
    first.variant ∈ cortexA72.dialect.variants ∧ OrdinaryRead first 0 second "v0" ∧
      ∃ baseline latency, cortexA72.baseLatency first = .ok baseline ∧
        cortexA72.latency first 0 second = .ok latency ∧ baseline ≤ latency.cycles := by
  intro first second
  have known : first.variant ∈ cortexA72.dialect.variants := by decide
  have read : OrdinaryRead first 0 second "v0" := ⟨rfl, by decide⟩
  rcases baseLatency_le_cycles_iff cortexA72 (by simp [builtin]) first second known 0 "v0" read
    with ⟨baseline, latency, found, refined, waits⟩
  have otherAccumulator : second.inOuts.head? ≠ some "v0" := by decide
  exact ⟨known, read, baseline, latency, found, refined,
    waits.mpr fun same => otherAccumulator same.2.1⟩

/-- A multiply-accumulate that reads one register as its accumulator and as a factor
does not wait for the product that it multiplies. -/
theorem latency_lt_baseLatency_factor :
    let product : Instruction := ⟨.registerForm "mul_v" .mulV "mul" none [.vector] []
      [.vector, .vector], ["v0", "v1", "v2"], rfl, none, none⟩
    let sum : Instruction := ⟨.registerForm "mla" .mla "mla" none [] [.vector]
      [.vector, .vector], ["v0", "v0", "v3"], rfl, none, none⟩
    cortexA55 ∈ builtin ∧
      Assembly.parseLine cortexA55.dialect "mul v0, v1, v2" = .ok [product] ∧
      Assembly.parseLine cortexA55.dialect "mla v0, v0, v3" = .ok [sum] ∧
      OrdinaryRead product 0 sum "v0" ∧
      cortexA55.baseLatency product = .ok 4 ∧
      cortexA55.latency product 0 sum = .ok (.plain 1) := by
  intro product sum
  refine ⟨by simp [builtin],
    (Assembly.parseLine_eq_ok_iff _ _ _).mpr ⟨by simp, by decide +kernel⟩,
    (Assembly.parseLine_eq_ok_iff _ _ _).mpr ⟨by simp, by decide +kernel⟩,
    ⟨rfl, by decide⟩, by decide +kernel, by decide +kernel⟩

end Core

end IssueTiming
