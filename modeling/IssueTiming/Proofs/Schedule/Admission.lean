import IssueTiming.Core.Basic
import IssueTiming.Proofs.Schedule.Demands
import Mathlib.Data.List.Basic

/-!
# Issue times that a core admits

A straight-line program leaves its schedule to the latencies of the registers
that flow from one instruction to a later one, to the relations between its
stores and to the constraints of the core. Times at a constant distance satisfy
them all unless an exact distance is asked for.
-/

namespace IssueTiming

/-! ## Flows -/

/-- A register flows from the instruction at one position to the one at a later
position: the first writes it, the second reads it and none in between writes it. -/
structure Flow (instructions : List Instruction) (source index target : Nat)
    (producer consumer : Instruction) : Prop where
  produced : instructions[source]? = some producer
  consumed : instructions[target]? = some consumer
  forward : source < target
  carried : ∃ register, producer.written? index = some register ∧ register ∈ consumer.reads ∧
    ∀ position between, source < position → position < target →
      instructions[position]? = some between → ∀ other, between.written? other ≠ some register

namespace Flow

variable {instructions : List Instruction} {source index target : Nat}
  {producer consumer : Instruction}

theorem source_lt (flow : Flow instructions source index target producer consumer) :
    source < instructions.length :=
  (List.getElem?_eq_some_iff.mp flow.produced).1

theorem target_lt (flow : Flow instructions source index target producer consumer) :
    target < instructions.length :=
  (List.getElem?_eq_some_iff.mp flow.consumed).1

theorem of_next {register : String} (produced : instructions[source]? = some producer)
    (consumed : instructions[source + 1]? = some consumer)
    (written : producer.written? index = some register) (read : register ∈ consumer.reads) :
    Flow instructions source index (source + 1) producer consumer :=
  ⟨produced, consumed, by omega, register, written, read, by intros; omega⟩

end Flow

/-- The issue times of the positions of a program satisfy a core: consumers wait
for what flows to them, and all relations hold. -/
structure Core.Admits (core : Core) (instructions : List Instruction) (time : Nat → Int) :
    Prop where
  flows : ∀ source index target producer consumer,
    Flow instructions source index target producer consumer →
    ∃ latency, core.latency producer index consumer = .ok latency ∧
      time source + latency.cycles ≤ time target ∧
      ∀ relation ∈ latency.relation?, relation.Holds (time source) (time target)
  stores : ∀ first second earlier later, first < second → instructions[first]? = some earlier →
    instructions[second]? = some later → earlier.isAnyStore = true → later.isAnyStore = true →
    ∃ latency, core.latency earlier 0 later = .ok latency ∧
      ∀ relation ∈ latency.relation?, relation.Holds (time first) (time second)
  constraints : ∀ first second relation,
    (first, second, relation) ∈
      (core.constrain .performance (.ofInstructions instructions) .empty).relations →
    relation.Holds (time first) (time second)

/-! ## Recordings and numbered programs -/

theorem Recording.recordAll_nil (recording : Recording) : recording.recordAll [] = recording :=
  rfl

theorem Recording.recordAll_cons (recording : Recording) (constraint : Constraint)
    (constraints : List Constraint) :
    recording.recordAll (constraint :: constraints) =
      (recording.record constraint).recordAll constraints :=
  rfl

theorem Recording.mem_relations_recordAll_iff (recording : Recording)
    (constraints : List Constraint) (entry : Nat × Nat × Relation) :
    entry ∈ (recording.recordAll constraints).relations ↔
      entry ∈ recording.relations ∨ .relate entry.1 entry.2.1 entry.2.2 ∈ constraints := by
  induction constraints generalizing recording with
  | nil => simp [recordAll_nil]
  | cons constraint constraints induction =>
      rw [recordAll_cons, induction]
      cases constraint with
      | relate first second relation =>
          rcases entry with ⟨entryFirst, entrySecond, entryRelation⟩
          simp [record, or_assoc]
      | restrict node units => simp [record]

namespace Program

theorem rel_of_mem_orderedPairs {α : Type} {relation : α → α → Prop} {items : List α}
    (pairwise : items.Pairwise relation) {first second : α}
    (member : (first, second) ∈ orderedPairs items) : relation first second := by
  induction items with
  | nil => cases member
  | cons head tail induction =>
      rcases List.pairwise_cons.mp pairwise with ⟨headFirst, tailPairwise⟩
      rcases List.mem_append.mp member with fromHead | later
      · rcases List.mem_map.mp fromHead with ⟨other, isOther, same⟩
        rcases Prod.mk.inj same with ⟨rfl, rfl⟩
        exact headFirst other isOther
      · exact induction tailPairwise later

theorem of_relate_mem {program : Program} {test : Instruction → Instruction → Bool}
    {first second : Nat} {relation stated : Relation}
    (member : .relate first second stated ∈ (program.pairsWhere test).map fun (first, second) =>
      Constraint.relate first.number second.number relation) :
    stated = relation ∧ ∃ earlier later, (earlier, later) ∈ orderedPairs program.nodes ∧
      earlier.number = first ∧ later.number = second := by
  rcases List.mem_map.mp member with ⟨⟨earlier, later⟩, chosen, same⟩
  rcases Constraint.relate.inj same with ⟨rfl, rfl, rfl⟩
  exact ⟨rfl, earlier, later, (List.mem_filter.mp chosen).1, rfl, rfl⟩

theorem pairwise_number_ofInstructions (instructions : List Instruction) :
    (ofInstructions instructions).nodes.Pairwise fun first second =>
      first.number < second.number := by
  have ascending : (instructions.zipIdx.map Prod.snd).Pairwise (· < ·) := by
    rw [List.zipIdx_map_snd]
    exact List.pairwise_lt_range'
  rw [List.pairwise_map] at ascending
  exact List.pairwise_map.mpr ascending

end Program

/-! ## Times at a constant distance -/

/-- Any two times in order and so far apart satisfy the relation. -/
def Relation.HoldsFrom (gap : Nat) (relation : Relation) : Prop :=
  ∀ first second : Int, first + gap ≤ second → relation.Holds first second

theorem Relation.holdsFrom_apart {gap distance : Nat} (near : distance ≤ gap) :
    (apart distance).HoldsFrom gap := by
  intro first second later
  simp only [Holds]
  omega

theorem Relation.holdsFrom_notAdjacent {gap : Nat} (far : 2 ≤ gap) :
    notAdjacent.HoldsFrom gap := by
  intro first second later
  simp only [Holds]
  omega

/-- A distance at which a producer and a later consumer satisfy the latency. -/
structure Latency.Within (gap : Nat) (latency : Latency) : Prop where
  cycles_le : latency.cycles ≤ gap
  relation : ∀ relation ∈ latency.relation?, relation.HoldsFrom gap

theorem Latency.within_plain {gap cycles : Nat} (short : cycles ≤ gap) :
    (plain cycles).Within gap :=
  ⟨short, by simp [relation?]⟩

theorem Latency.within_ite_plain {condition : Prop} [Decidable condition] {gap first second : Nat}
    (firstShort : first ≤ gap) (secondShort : second ≤ gap) :
    (if condition then plain first else plain second).Within gap := by
  split
  · exact within_plain firstShort
  · exact within_plain secondShort

/-- A distance at which a core lets all instructions of any program follow one
another. -/
structure Core.Spaced (core : Core) (gap : Nat) : Prop where
  latency : ∀ source index target latency, core.latency source index target = .ok latency →
    latency.Within gap
  constraints : ∀ program first second relation,
    .relate first second relation ∈ core.constraints program →
    relation.HoldsFrom gap ∧ ∃ earlier later, (earlier, later) ∈ Program.orderedPairs program.nodes ∧
      earlier.number = first ∧ later.number = second

theorem Core.Spaced.admits {core : Core} {gap : Nat} (spaced : core.Spaced gap)
    {instructions : List Instruction}
    (priced : ∀ instruction ∈ instructions, ∀ index target,
      ∃ latency, core.latency instruction index target = .ok latency) :
    core.Admits instructions fun position => gap * position := by
  have far : ∀ first second : Nat, first < second →
      (gap * first : Int) + gap ≤ gap * second := by
    intro first second before
    calc (gap * first : Int) + gap = gap * (first + 1) := by rw [Int.mul_add, Int.mul_one]
      _ ≤ gap * second := by
        have next : (first + 1 : Int) ≤ second := by omega
        exact Int.mul_le_mul_of_nonneg_left next (Int.natCast_nonneg gap)
  constructor
  · intro source index target producer consumer flow
    rcases priced producer (List.mem_of_getElem? flow.produced) index consumer with
      ⟨latency, found⟩
    have within := spaced.latency _ _ _ _ found
    have apart := far source target flow.forward
    have short := within.cycles_le
    exact ⟨latency, found, by omega, fun relation related =>
      within.relation relation related _ _ apart⟩
  · intro first second earlier later before atFirst _ _ _
    rcases priced earlier (List.mem_of_getElem? atFirst) 0 later with ⟨latency, found⟩
    exact ⟨latency, found, fun relation related =>
      (spaced.latency _ _ _ _ found).relation relation related _ _ (far first second before)⟩
  · intro first second relation installed
    simp only [Core.constrain, Recording.mem_relations_recordAll_iff, Recording.empty,
      List.not_mem_nil, false_or] at installed
    rcases spaced.constraints _ _ _ _ installed with ⟨holds, earlier, later, member, rfl, rfl⟩
    have before := Program.rel_of_mem_orderedPairs
      (Program.pairwise_number_ofInstructions instructions) member
    exact holds _ _ (far _ _ before)

end IssueTiming
