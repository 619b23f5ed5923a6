import IssueTiming.Proofs.Core.Forwarding
import IssueTiming.Proofs.Schedule.Agreement

/-!
# Costs under a renaming of registers

Of the names in a program a core compares but two: the register that a producer writes
and the accumulator of its consumer. A renaming that keeps the names of the two
instructions apart changes none of their costs, and no renaming at all changes what a
core demands of a program or how it scores a schedule. The offsets of addresses play no
part in any of this.
-/

namespace IssueTiming

/-! ## Renamed instructions -/

/-- An instruction after a renaming of its registers. Offsets and write-back of an
address may differ in any way. -/
structure Instruction.Renamed (rename : String → String) (original renamed : Instruction) :
    Prop where
  variant : renamed.variant = original.variant
  suffix : renamed.suffix = original.suffix
  operands : renamed.operands = original.operands.map rename
  base : renamed.address.map Address.base = original.address.map fun address => rename address.base

namespace Instruction.Renamed

variable {rename : String → String} {original renamed : Instruction}

theorem alike (renames : original.Renamed rename renamed) : renamed.Alike original := by
  constructor
  · exact congrArg Variant.opcode renames.variant
  · rw [renames.variant]
  · rw [renames.suffix]

theorem written?_eq (renames : original.Renamed rename renamed) (index : Nat) :
    renamed.written? index = (original.written? index).map rename := by
  rw [written?, renames.operands, renames.variant, ← List.map_take, List.getElem?_map, written?]

theorem inOuts_eq (renames : original.Renamed rename renamed) :
    renamed.inOuts = original.inOuts.map rename := by
  rw [inOuts, renames.operands, renames.variant, ← List.map_drop, ← List.map_take, inOuts]

/-- The hand-over of an accumulator survives a renaming that keeps the operands of both
instructions apart. -/
theorem feedsAccumulator_eq {source source' target target' : Instruction}
    (renamesSource : source.Renamed rename source') (renamesTarget : target.Renamed rename target')
    (apart : Set.InjOn rename {name | name ∈ source.operands ∨ name ∈ target.operands})
    (index : Nat) :
    source'.feedsAccumulator index target' = source.feedsAccumulator index target := by
  have accumulates : target'.isMultiplyAccumulate = target.isMultiplyAccumulate :=
    congrArg Opcode.isMultiplyAccumulate renamesTarget.alike.opcode
  rw [Bool.eq_iff_iff, feedsAccumulator_iff, feedsAccumulator_iff, accumulates,
    renamesSource.written?_eq, renamesTarget.inOuts_eq]
  apply and_congr_right
  intro _
  simp only [List.head?_map, Option.map_eq_some_iff]
  constructor
  · rintro ⟨_, ⟨register, written, rfl⟩, accumulator, first, same⟩
    have isOperand : register ∈ source.operands :=
      List.mem_of_mem_take (List.mem_of_getElem? written)
    have alsoOperand : accumulator ∈ target.operands :=
      List.mem_of_mem_drop (List.mem_of_mem_take (List.mem_of_mem_head? first))
    rw [apart (.inr alsoOperand) (.inl isOperand) same] at first
    exact ⟨register, written, first⟩
  · rintro ⟨register, written, first⟩
    exact ⟨rename register, ⟨register, written, rfl⟩, register, first, rfl⟩

end Instruction.Renamed

/-- A program after a renaming of the registers of all its instructions. -/
def Program.Renamed (rename : String → String) (original renamed : Program) : Prop :=
  List.Forall₂ (fun first second : Node =>
      second.number = first.number ∧ first.instruction.Renamed rename second.instruction)
    original.nodes renamed.nodes

theorem Program.Renamed.alike {rename : String → String} {original renamed : Program}
    (renames : original.Renamed rename renamed) : renamed.Alike original :=
  (renames.imp fun _ _ node => ⟨node.1, node.2.alike⟩).flip

/-- A schedule after a renaming of the registers of all its instructions. -/
def Placement.Renamed (rename : String → String) (original renamed : Placement) : Prop :=
  List.Forall₂ (fun first second => second.1 = first.1 ∧ first.2.Renamed rename second.2)
    original renamed

theorem Placement.Renamed.alike {rename : String → String} {original renamed : Placement}
    (renames : original.Renamed rename renamed) : List.Forall₂ PlacedAlike renamed original :=
  (renames.imp fun _ _ placed => ⟨placed.1, placed.2.alike⟩).flip

/-! ## Costs of instructions that agree -/

namespace Core

theorem costs_eq_of_alike {core : Core} (listed : core ∈ builtin) {left right : Instruction}
    (alike : left.Alike right) (known : right.variant ∈ core.dialect.variants) :
    core.units left = core.units right ∧
      core.inverseThroughput left = core.inverseThroughput right ∧
      core.baseLatency left = core.baseLatency right := by
  rcases prices_of_mem_builtin listed known with ⟨⟨_, units, -⟩, ⟨_, throughput, -⟩, _, latency, -⟩
  have uniform := uniform_of_mem_builtin listed
  exact ⟨RuleTable.resolve_eq_of_alike uniform.units alike units,
    RuleTable.resolve_eq_of_alike uniform.inverseThroughput alike throughput,
    RuleTable.resolve_eq_of_alike uniform.latency alike latency⟩

/-- A refinement looks at the traits of the two instructions and at whether one feeds the
accumulator of the other. -/
theorem refine_eq_of_alike {core : Core} (listed : core ∈ builtin)
    {source source' target target' : Instruction} (alikeSource : source'.Alike source)
    (alikeTarget : target'.Alike target) {index : Nat}
    (feeds : source'.feedsAccumulator index target' = source.feedsAccumulator index target) :
    core.refine source' index target' = core.refine source index target := by
  have multiply := Instruction.uniform_isVectorMul _ _ alikeSource
  have float := Instruction.uniform_isFloat _ _ alikeSource
  funext baseline
  rcases (mem_builtin_iff _).mp listed with rfl | rfl | rfl | rfl | rfl | rfl | rfl
  · simp only [cortexM55, CortexM55.refine, feeds, alikeSource.opcode, multiply, float]
  · simp only [cortexM85, CortexM85.refine, alikeSource.opcode, alikeTarget.opcode]
  · simp only [cortexA55, CortexA55.refine, feeds, alikeSource.opcode]
  · simp only [cortexA72, CortexA72.refine, feeds, alikeSource.opcode]
  · simp only [neoverseN1, NeoverseN1.refine, feeds, alikeSource.opcode]
  · rfl
  · rfl

theorem constraints_eq_of_alike {core : Core} (listed : core ∈ builtin) {left right : Program}
    (alike : left.Alike right) : core.constraints left = core.constraints right := by
  rcases (mem_builtin_iff _).mp listed with rfl | rfl | rfl | rfl | rfl | rfl | rfl
  · rfl
  · exact Program.map_pairsWhere_eq alike Instruction.uniform_isAnyStore
      Instruction.uniform_isAnyStore fun first second => Constraint.relate first second (.apart 1)
  · exact Program.map_nodesWhere_eq alike (Key.uniform_operation .fmul)
      fun node => Constraint.restrict node (.of [CortexA55.Pipe.vec0])
  · exact Program.map_pairsWhere_eq alike Instruction.uniform_isVectorMul
      Instruction.uniform_isVectorMul fun first second => Constraint.relate first second .notAdjacent
  · rfl
  · rfl
  · rfl

theorem evaluate_eq_of_alike {core : Core} (listed : core ∈ builtin) {objective : Objective}
    (preferred : core.objective = some objective) {left right : Placement}
    (alike : List.Forall₂ PlacedAlike left right) :
    objective.evaluate left = objective.evaluate right := by
  rcases (mem_builtin_iff _).mp listed with rfl | rfl | rfl | rfl | rfl | rfl | rfl
  · cases preferred
  · cases preferred
    exact ObjectiveTerm.evaluate_adjacentPairs_eq Instruction.uniform_isVectorLoad
      Instruction.uniform_isVectorMul alike
  · cases preferred
  · cases preferred
  · cases preferred
  · cases preferred
  · cases preferred
    exact ObjectiveTerm.evaluate_adjacentPairs_eq Instruction.uniform_isAnyStore
      Instruction.uniform_isAnyStore alike

/-! ## The result -/

/-- A renaming of registers leaves the costs of an instruction, its latencies to others,
the constraints of a program and the score of a schedule as they are. Only latencies
need the renaming to keep names apart, and only those of the two instructions. -/
theorem costs_eq_of_renamed (core : Core) (listed : core ∈ builtin) (rename : String → String) :
    (∀ (source source' target target' : Instruction) (index : Nat),
      source.variant ∈ core.dialect.variants →
      source.Renamed rename source' → target.Renamed rename target' →
      Set.InjOn rename {name | name ∈ source.operands ∨ name ∈ target.operands} →
      core.units source' = core.units source ∧
        core.inverseThroughput source' = core.inverseThroughput source ∧
        core.baseLatency source' = core.baseLatency source ∧
        core.latency source' index target' = core.latency source index target) ∧
    (∀ original renamed : Program, original.Renamed rename renamed → ∀ mode recording,
      core.constrain mode renamed recording = core.constrain mode original recording) ∧
    ∀ objective, core.objective = some objective →
      ∀ original renamed : Placement, original.Renamed rename renamed →
        objective.evaluate renamed = objective.evaluate original := by
  refine ⟨?_, ?_, ?_⟩
  · intro source source' target target' index known renamesSource renamesTarget apart
    rcases costs_eq_of_alike listed renamesSource.alike known with ⟨units, throughput, baseline⟩
    have feeds := renamesSource.feedsAccumulator_eq renamesTarget apart index
    have refined := refine_eq_of_alike listed renamesSource.alike renamesTarget.alike feeds
    refine ⟨units, throughput, baseline, ?_⟩
    rw [latency, latency, baseline, refined]
  · intro original renamed renames mode recording
    cases mode with
    | functionalOnly => rfl
    | performance =>
        exact congrArg recording.recordAll (constraints_eq_of_alike listed renames.alike)
  · intro objective preferred original renamed renames
    exact evaluate_eq_of_alike listed preferred renames.alike

/-- A load and a multiplication of what it loads, where the vector goes into another
register and the load moves on by another offset. -/
theorem costs_eq_of_renamed_load :
    let rename : String → String := Equiv.swap "q0" "q7"
    let load : Instruction := ⟨.memoryForm "vldrw" .vldrw "vldrw" (some .word) .load [.vector]
      [.gpr], ["q0", "r0"], rfl, some "u32", some ⟨"r0", none, some "16", false⟩⟩
    let load' : Instruction := ⟨.memoryForm "vldrw" .vldrw "vldrw" (some .word) .load [.vector]
      [.gpr], ["q7", "r0"], rfl, some "u32", some ⟨"r0", some "32", none, true⟩⟩
    let product : Instruction := ⟨.registerForm "vmul" .vmul "vmul" (some .any) [.vector] []
      [.vector, .vector], ["q1", "q0", "q2"], rfl, some "s32", none⟩
    let product' : Instruction := ⟨.registerForm "vmul" .vmul "vmul" (some .any) [.vector] []
      [.vector, .vector], ["q1", "q7", "q2"], rfl, some "s32", none⟩
    (load.variant ∈ cortexM85.dialect.variants ∧ load.Renamed rename load' ∧
      product.Renamed rename product' ∧ Function.Injective rename) ∧
    cortexM85.latency load' 0 product' = cortexM85.latency load 0 product ∧
    cortexM85.constrain .performance ⟨[⟨0, load'⟩, ⟨1, product'⟩]⟩ .empty =
      cortexM85.constrain .performance ⟨[⟨0, load⟩, ⟨1, product⟩]⟩ .empty ∧
    CortexM85.objective.evaluate [(0, load'), (1, product')] =
      CortexM85.objective.evaluate [(0, load), (1, product)] := by
  intro rename load load' product product'
  have known : load.variant ∈ cortexM85.dialect.variants := by decide
  have renamesLoad : load.Renamed rename load' := ⟨rfl, rfl, by decide, by decide⟩
  have renamesProduct : product.Renamed rename product' := ⟨rfl, rfl, by decide, rfl⟩
  have injective : Function.Injective rename := (Equiv.swap "q0" "q7").injective
  rcases costs_eq_of_renamed cortexM85 (by simp [builtin]) rename with ⟨costs, constraints, scores⟩
  have program : Program.Renamed rename ⟨[⟨0, load⟩, ⟨1, product⟩]⟩
      ⟨[⟨0, load'⟩, ⟨1, product'⟩]⟩ :=
    .cons ⟨rfl, renamesLoad⟩ (.cons ⟨rfl, renamesProduct⟩ .nil)
  have schedule : Placement.Renamed rename [(0, load), (1, product)]
      [(0, load'), (1, product')] :=
    .cons ⟨rfl, renamesLoad⟩ (.cons ⟨rfl, renamesProduct⟩ .nil)
  exact ⟨⟨known, renamesLoad, renamesProduct, injective⟩,
    (costs _ _ _ _ 0 known renamesLoad renamesProduct injective.injOn).2.2.2,
    constraints _ _ program _ _, scores _ rfl _ _ schedule⟩

end Core

end IssueTiming
