import IssueTiming.Proofs.Schedule.Admission
import Mathlib.Data.Prod.Lex

/-!
# What a selection from a program lists

The instructions of a program are numbered by position, so a selection of nodes or of
pairs of nodes is known by the numbers in it. It has those whose instructions pass the
test, each of them once, and they ascend.
-/

namespace IssueTiming

namespace Program

/-! ## Nodes and pairs of nodes -/

theorem mem_nodes_ofInstructions_iff (instructions : List Instruction) (node : Node) :
    node ∈ (ofInstructions instructions).nodes ↔
      instructions[node.number]? = some node.instruction := by
  simp only [ofInstructions, List.mem_map, Prod.exists, List.mem_zipIdx_iff_getElem?]
  constructor
  · rintro ⟨instruction, number, found, rfl⟩
    exact found
  · intro found
    exact ⟨node.instruction, node.number, found, rfl⟩

section

variable {α : Type} {relation : α → α → Prop} {items : List α}

theorem mem_of_mem_orderedPairs {first second : α}
    (member : (first, second) ∈ orderedPairs items) : first ∈ items ∧ second ∈ items := by
  induction items with
  | nil => cases member
  | cons head tail induction =>
      rcases List.mem_append.mp member with fromHead | later
      · rcases List.mem_map.mp fromHead with ⟨other, isOther, same⟩
        rcases Prod.mk.inj same with ⟨rfl, rfl⟩
        exact ⟨List.mem_cons_self, List.mem_cons_of_mem _ isOther⟩
      · rcases induction later with ⟨isFirst, isSecond⟩
        exact ⟨List.mem_cons_of_mem _ isFirst, List.mem_cons_of_mem _ isSecond⟩

/-- In a list in strict order the pairs are the elements in that order. -/
theorem mem_orderedPairs_iff (strict : ∀ first second, relation first second →
      ¬ relation second first) (pairwise : items.Pairwise relation) (first second : α) :
    (first, second) ∈ orderedPairs items ↔
      first ∈ items ∧ second ∈ items ∧ relation first second := by
  constructor
  · intro member
    rcases mem_of_mem_orderedPairs member with ⟨isFirst, isSecond⟩
    exact ⟨isFirst, isSecond, rel_of_mem_orderedPairs pairwise member⟩
  · rintro ⟨isFirst, isSecond, before⟩
    induction items with
    | nil => cases isFirst
    | cons head tail induction =>
        rcases List.pairwise_cons.mp pairwise with ⟨headFirst, tailPairwise⟩
        rcases List.mem_cons.mp isSecond with rfl | inTail
        · -- The first element of the list comes after no other.
          rcases List.mem_cons.mp isFirst with rfl | later
          · exact absurd before (strict _ _ before)
          · exact absurd before (strict _ _ (headFirst first later))
        · rcases List.mem_cons.mp isFirst with rfl | later
          · exact List.mem_append_left _ (List.mem_map_of_mem inTail)
          · exact List.mem_append_right _ (induction tailPairwise later inTail)

/-- The pairs of a list in strict order ascend lexicographically. -/
theorem pairwise_orderedPairs (pairwise : items.Pairwise relation) :
    (orderedPairs items).Pairwise (Prod.Lex relation relation) := by
  induction items with
  | nil => exact .nil
  | cons head tail induction =>
      rcases List.pairwise_cons.mp pairwise with ⟨headFirst, tailPairwise⟩
      apply List.pairwise_append.mpr
      refine ⟨?_, induction tailPairwise, ?_⟩
      · exact List.pairwise_map.mpr (tailPairwise.imp fun before => .right head before)
      · intro fromHead isFromHead later isLater
        rcases List.mem_map.mp isFromHead with ⟨other, -, rfl⟩
        exact .left _ _ (headFirst _ (mem_of_mem_orderedPairs isLater).1)

end

/-! ## Listings -/

/-- A list relates the pairs of positions whose instructions both pass a test, all of
them once, from the earlier to the later and in lexicographic order. -/
structure ListsPairs (instructions : List Instruction) (test : Instruction → Bool)
    (relation : Relation) (relations : List (Nat × Nat × Relation)) : Prop where
  mem_iff : ∀ first second stated, (first, second, stated) ∈ relations ↔
    stated = relation ∧ first < second ∧
      ∃ earlier later, instructions[first]? = some earlier ∧ test earlier = true ∧
        instructions[second]? = some later ∧ test later = true
  ascending : relations.Pairwise fun left right =>
    Prod.Lex (· < ·) (· < ·) (left.1, left.2.1) (right.1, right.2.1)

/-- A list restricts the positions whose instructions pass a test to the same units,
all of them once and in ascending order. -/
structure ListsNodes (instructions : List Instruction) (test : Instruction → Bool)
    (units : UnitSet) (restrictions : List (Nat × UnitSet)) : Prop where
  mem_iff : ∀ position set, (position, set) ∈ restrictions ↔
    set = units ∧ ∃ instruction, instructions[position]? = some instruction ∧
      test instruction = true
  ascending : restrictions.Pairwise fun left right => left.1 < right.1

theorem ListsPairs.nodup {instructions : List Instruction} {test : Instruction → Bool}
    {relation : Relation} {relations : List (Nat × Nat × Relation)}
    (lists : ListsPairs instructions test relation relations) : relations.Nodup := by
  apply lists.ascending.imp
  rintro left right ascends rfl
  rcases Prod.lex_def.mp ascends with before | ⟨-, before⟩
  · exact lt_irrefl _ before
  · exact lt_irrefl _ before

theorem ListsNodes.nodup {instructions : List Instruction} {test : Instruction → Bool}
    {units : UnitSet} {restrictions : List (Nat × UnitSet)}
    (lists : ListsNodes instructions test units restrictions) : restrictions.Nodup := by
  apply lists.ascending.imp
  rintro left right ascends rfl
  exact lt_irrefl _ ascends

section

variable (instructions : List Instruction) (test : Instruction → Bool)

theorem mem_pairsWhere_ofInstructions_iff (earlier later : Node) :
    (earlier, later) ∈ (ofInstructions instructions).pairsWhere
        (fun first second => test first && test second) ↔
      earlier.number < later.number ∧
        instructions[earlier.number]? = some earlier.instruction ∧
        test earlier.instruction = true ∧
        instructions[later.number]? = some later.instruction ∧
        test later.instruction = true := by
  have pairs := mem_orderedPairs_iff (fun _ _ before => Nat.lt_asymm before)
    (pairwise_number_ofInstructions instructions) earlier later
  rw [pairsWhere, List.mem_filter, pairs, mem_nodes_ofInstructions_iff,
    mem_nodes_ofInstructions_iff, Bool.and_eq_true]
  tauto

theorem listsPairs_pairsWhere (relation : Relation) :
    ListsPairs instructions test relation
      (((ofInstructions instructions).pairsWhere fun first second => test first && test second).map
        fun pair => (pair.1.number, pair.2.number, relation)) := by
  constructor
  · intro first second stated
    constructor
    · intro member
      rcases List.mem_map.mp member with ⟨⟨earlier, later⟩, chosen, same⟩
      cases same
      rcases (mem_pairsWhere_ofInstructions_iff _ _ _ _).mp chosen with ⟨before, placed⟩
      exact ⟨rfl, before, earlier.instruction, later.instruction, placed⟩
    · rintro ⟨rfl, before, earlier, later, placed⟩
      have chosen := (mem_pairsWhere_ofInstructions_iff instructions test ⟨first, earlier⟩
        ⟨second, later⟩).mpr ⟨before, placed⟩
      exact List.mem_map.mpr ⟨_, chosen, rfl⟩
  · have numbered := pairwise_orderedPairs (pairwise_number_ofInstructions instructions)
    apply List.pairwise_map.mpr
    apply (numbered.filter _).imp
    intro left right ascends
    cases ascends with
    | left _ _ before => exact .left _ _ before
    | right _ before => exact .right _ before

theorem listsNodes_nodesWhere (units : UnitSet) :
    ListsNodes instructions test units
      (((ofInstructions instructions).nodesWhere test).map fun node => (node.number, units)) := by
  constructor
  · intro position set
    constructor
    · intro member
      rcases List.mem_map.mp member with ⟨node, chosen, same⟩
      cases same
      rcases List.mem_filter.mp chosen with ⟨isNode, passes⟩
      have placed := (mem_nodes_ofInstructions_iff instructions node).mp isNode
      exact ⟨rfl, node.instruction, placed, passes⟩
    · rintro ⟨rfl, instruction, placed, passes⟩
      have isNode := (mem_nodes_ofInstructions_iff instructions ⟨position, instruction⟩).mpr placed
      exact List.mem_map.mpr ⟨_, List.mem_filter.mpr ⟨isNode, passes⟩, rfl⟩
  · have numbered := pairwise_number_ofInstructions instructions
    exact List.pairwise_map.mpr (numbered.filter _)

end

end Program

/-! ## Recordings -/

namespace Recording

variable (recording : Recording)

/-- Relations between pairs of nodes go behind the relations that are recorded already. -/
theorem recordAll_map_relate (pairs : List (Node × Node)) (relation : Relation) :
    recording.recordAll
        (pairs.map fun (first, second) => .relate first.number second.number relation) =
      ⟨recording.relations ++ pairs.map fun pair => (pair.1.number, pair.2.number, relation),
        recording.restrictions⟩ := by
  induction pairs generalizing recording with
  | nil => simp [recordAll_nil]
  | cons head tail induction =>
      rw [List.map_cons, recordAll_cons, induction]
      simp [record]

/-- Restrictions of nodes go behind the restrictions that are recorded already. -/
theorem recordAll_map_restrict (nodes : List Node) (units : UnitSet) :
    recording.recordAll (nodes.map fun node => .restrict node.number units) =
      ⟨recording.relations,
        recording.restrictions ++ nodes.map fun node => (node.number, units)⟩ := by
  induction nodes generalizing recording with
  | nil => simp [recordAll_nil]
  | cons head tail induction =>
      rw [List.map_cons, recordAll_cons, induction]
      simp [record]

end Recording

end IssueTiming
