import IssueTiming.Proofs.Core.Coverage
import IssueTiming.Proofs.Schedule.Enumeration

/-!
# Structural rules of the cores

Three cores demand of a program what no table can say. The Cortex-M85 keeps stores
apart, the Cortex-A72 keeps vector multiplies out of consecutive cycles, and the
Cortex-A55 issues floating-point multiplies on its first vector pipe. Each lists the
instructions that its rule is about, and no others, behind whatever was recorded before.
-/

namespace IssueTiming

/-- The first vector pipe is one that a floating-point multiply may use anyway. -/
theorem CortexA55.exists_units_of_fmul {multiply : Instruction} (float : multiply.opcode = .fmul) :
    ∃ allowed, cortexA55.units multiply = .ok (.anyOf allowed) ∧
      (UnitSet.of [Pipe.vec0]).isSubset allowed = true := by
  refine ⟨.of [Pipe.vec0, Pipe.vec1], (RuleTable.resolve_eq_ok_iff _ _ _).mpr ?_, by decide⟩
  simp [cortexA55, tables, CostTables.ofRules, RuleTable.lookup, Key.covers, Key.anyCovers,
    Instruction.isVectorMul, float, Opcode.isVectorMul, UnitRequirement.any]

namespace Core

/-- A core appends relations and restrictions to the recording of a program by its
structural rule. -/
structure Appends (core : Core) (instructions : List Instruction)
    (relations : List (Nat × Nat × Relation)) (restrictions : List (Nat × UnitSet)) : Prop where
  stores : core.name = cortexM85.name →
    Program.ListsPairs instructions Instruction.isAnyStore (.apart 1) relations
  multiplies : core.name = cortexA72.name →
    Program.ListsPairs instructions Instruction.isVectorMul .notAdjacent relations
  unrelated : core.name ≠ cortexM85.name → core.name ≠ cortexA72.name → relations = []
  floats : core.name = cortexA55.name →
    Program.ListsNodes instructions (fun instruction => instruction.opcode == .fmul)
      (.of [CortexA55.Pipe.vec0]) restrictions
  unrestricted : core.name ≠ cortexA55.name → restrictions = []
  /-- A restriction leaves a unit, and only units that the instruction may use anyway. -/
  offered : ∀ position set, (position, set) ∈ restrictions →
    ∃ instruction allowed, instructions[position]? = some instruction ∧
      core.units instruction = .ok (.anyOf allowed) ∧
      (∃ unit, set.contains unit = true) ∧
      ∀ unit, set.contains unit = true → allowed.contains unit = true

section

variable {core : Core} {instructions : List Instruction}

theorem Appends.none (noStores : core.name ≠ cortexM85.name)
    (noMultiplies : core.name ≠ cortexA72.name) (noFloats : core.name ≠ cortexA55.name) :
    core.Appends instructions [] [] where
  stores named := absurd named noStores
  multiplies named := absurd named noMultiplies
  unrelated _ _ := rfl
  floats named := absurd named noFloats
  unrestricted _ := rfl
  offered _ _ member := absurd member List.not_mem_nil

theorem Appends.of_stores {relations : List (Nat × Nat × Relation)}
    (pairs : Program.ListsPairs instructions Instruction.isAnyStore (.apart 1) relations) :
    cortexM85.Appends instructions relations [] where
  stores _ := pairs
  multiplies named := absurd named (by decide)
  unrelated other _ := absurd rfl other
  floats named := absurd named (by decide)
  unrestricted _ := rfl
  offered _ _ member := absurd member List.not_mem_nil

theorem Appends.of_multiplies {relations : List (Nat × Nat × Relation)}
    (pairs : Program.ListsPairs instructions Instruction.isVectorMul .notAdjacent relations) :
    cortexA72.Appends instructions relations [] where
  stores named := absurd named (by decide)
  multiplies _ := pairs
  unrelated _ other := absurd rfl other
  floats named := absurd named (by decide)
  unrestricted _ := rfl
  offered _ _ member := absurd member List.not_mem_nil

theorem Appends.of_floats {restrictions : List (Nat × UnitSet)}
    (nodes : Program.ListsNodes instructions (fun instruction => instruction.opcode == .fmul)
      (.of [CortexA55.Pipe.vec0]) restrictions) :
    cortexA55.Appends instructions [] restrictions where
  stores named := absurd named (by decide)
  multiplies named := absurd named (by decide)
  unrelated _ _ := rfl
  floats _ := nodes
  unrestricted other := absurd rfl other
  offered := by
    intro position set member
    rcases (nodes.mem_iff position set).mp member with ⟨rfl, multiply, placed, float⟩
    rcases CortexA55.exists_units_of_fmul (beq_iff_eq.mp float) with ⟨allowed, units, inside⟩
    have left : (UnitSet.of [CortexA55.Pipe.vec0]).isEmpty = false := by decide
    exact ⟨multiply, allowed, placed, units, (UnitSet.isEmpty_eq_false_iff _).mp left,
      (UnitSet.isSubset_iff _ _).mp inside⟩

theorem exists_appends (listed : core ∈ builtin) (instructions : List Instruction)
    (recording : Recording) :
    ∃ relations restrictions,
      recording.recordAll (core.constraints (.ofInstructions instructions)) =
        ⟨recording.relations ++ relations, recording.restrictions ++ restrictions⟩ ∧
      core.Appends instructions relations restrictions := by
  have unchanged : recording.recordAll [] =
      ⟨recording.relations ++ [], recording.restrictions ++ []⟩ := by
    rw [Recording.recordAll_nil, List.append_nil, List.append_nil]
  rcases (mem_builtin_iff _).mp listed with rfl | rfl | rfl | rfl | rfl | rfl | rfl
  · exact ⟨[], [], unchanged, .none (by decide) (by decide) (by decide)⟩
  · refine ⟨_, [], ?_, .of_stores (Program.listsPairs_pairsWhere _ _ _)⟩
    rw [List.append_nil]
    exact recording.recordAll_map_relate _ _
  · refine ⟨[], _, ?_, .of_floats (Program.listsNodes_nodesWhere _ _ _)⟩
    rw [List.append_nil]
    exact recording.recordAll_map_restrict _ _
  · refine ⟨_, [], ?_, .of_multiplies (Program.listsPairs_pairsWhere _ _ _)⟩
    rw [List.append_nil]
    exact recording.recordAll_map_relate _ _
  · exact ⟨[], [], unchanged, .none (by decide) (by decide) (by decide)⟩
  · exact ⟨[], [], unchanged, .none (by decide) (by decide) (by decide)⟩
  · exact ⟨[], [], unchanged, .none (by decide) (by decide) (by decide)⟩

theorem Appends.nodup {relations : List (Nat × Nat × Relation)}
    {restrictions : List (Nat × UnitSet)} (appends : core.Appends instructions relations restrictions) :
    relations.Nodup ∧ restrictions.Nodup := by
  constructor
  · by_cases stores : core.name = cortexM85.name
    · exact (appends.stores stores).nodup
    · by_cases multiplies : core.name = cortexA72.name
      · exact (appends.multiplies multiplies).nodup
      · rw [appends.unrelated stores multiplies]
        exact List.nodup_nil
  · by_cases floats : core.name = cortexA55.name
    · exact (appends.floats floats).nodup
    · rw [appends.unrestricted floats]
      exact List.nodup_nil

end

/-- The constraints of a core leave what was recorded before in place. Behind it stands
what the structural rule of the core lists, nothing of it twice, and nothing at all in a
run that is functional only. -/
theorem constrain_ofInstructions (core : Core) (listed : core ∈ builtin)
    (instructions : List Instruction) (recording : Recording) :
    core.constrain .functionalOnly (.ofInstructions instructions) recording = recording ∧
      ∃ relations restrictions,
        core.constrain .performance (.ofInstructions instructions) recording =
          ⟨recording.relations ++ relations, recording.restrictions ++ restrictions⟩ ∧
        core.Appends instructions relations restrictions ∧
        relations.Nodup ∧ restrictions.Nodup := by
  refine ⟨rfl, ?_⟩
  rcases exists_appends listed instructions recording with
    ⟨relations, restrictions, recorded, appends⟩
  exact ⟨relations, restrictions, recorded, appends, appends.nodup⟩

/-- A spill and a store with another instruction between them. -/
theorem constrain_ofInstructions_stores :
    let spill : Instruction := ⟨.registerForm "qsave" .qsave "qsave" none [.vectorStack] []
      [.vector], ["QSTACK0", "q0"], rfl, none, none⟩
    let nop : Instruction := ⟨.registerForm "nop" .nop "nop" none [] [] [], [], rfl, none, none⟩
    let store : Instruction := ⟨.memoryForm "vstrw" .vstrw "vstrw" (some .word) .store []
      [.vector, .gpr], ["q1", "r0"], rfl, some "u32", some ⟨"r0", none, some "16", false⟩⟩
    let recording : Recording := ⟨[(0, 1, .exactly 2)], []⟩
    cortexM85.constrain .functionalOnly (.ofInstructions [spill, nop, store]) recording =
        recording ∧
      ∃ relations,
        cortexM85.constrain .performance (.ofInstructions [spill, nop, store]) recording =
          ⟨(0, 1, .exactly 2) :: relations, []⟩ ∧
        Program.ListsPairs [spill, nop, store] Instruction.isAnyStore (.apart 1) relations ∧
        (0, 2, .apart 1) ∈ relations := by
  intro spill nop store recording
  rcases constrain_ofInstructions cortexM85 (by simp [builtin]) [spill, nop, store] recording with
    ⟨skipped, relations, restrictions, recorded, appends, -⟩
  have pairs := appends.stores rfl
  refine ⟨skipped, relations, ?_, pairs, ?_⟩
  · rw [recorded, appends.unrestricted (by decide)]
    rfl
  · exact (pairs.mem_iff 0 2 (.apart 1)).mpr
      ⟨rfl, by decide, spill, store, rfl, by decide, rfl, by decide⟩

end Core

end IssueTiming
