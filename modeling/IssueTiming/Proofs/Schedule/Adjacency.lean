import IssueTiming.Isa.Capability
import IssueTiming.Isa.Dialect
import IssueTiming.Schedule.Objective
import Mathlib

/-!
# Adjacent pairs, cycle by cycle

An adjacency objective goes through all pairs of a schedule. How many it counts depends
only on how many instructions of either kind issue in each cycle: every instruction of the
first kind forms a pair with every one of the second kind in the cycle after it.
-/

namespace IssueTiming

/-! ## Pairs of two lists -/

section

variable {α β γ δ : Type}

theorem product_append_left (first second : List α) (others : List β) :
    (first ++ second) ×ˢ others = first ×ˢ others ++ second ×ˢ others :=
  List.flatMap_append

theorem product_append_right_perm (items : List α) (first second : List β) :
    (items ×ˢ (first ++ second)).Perm (items ×ˢ first ++ items ×ˢ second) := by
  rw [← Multiset.coe_eq_coe, ← Multiset.coe_add, ← Multiset.coe_product, ← Multiset.coe_product,
    ← Multiset.coe_product, ← Multiset.coe_add, Multiset.product_add]

theorem map_swap_product_perm (items : List α) (others : List β) :
    ((items ×ˢ others).map Prod.swap).Perm (others ×ˢ items) := by
  rw [← Multiset.coe_eq_coe, ← Multiset.map_coe, ← Multiset.coe_product, ← Multiset.coe_product,
    Multiset.map_swap_product]

theorem map_product_map (left : α → γ) (right : β → δ) (items : List α) (others : List β) :
    items.map left ×ˢ others.map right = (items ×ˢ others).map (Prod.map left right) := by
  induction items with
  | nil => rfl
  | cons item items induction =>
      rw [List.map_cons, List.product_cons, List.product_cons, List.map_append, induction,
        List.map_map, List.map_map]
      rfl

end

namespace Placement

/-! ## What issues in a cycle -/

/-- How many of the instructions that pass a test issue in a cycle. -/
def issued (schedule : Placement) (test : Instruction → Bool) (cycle : Int) : Nat :=
  schedule.countP fun (placed, instruction) => placed == cycle && test instruction

/-- The cycles of the instructions that pass a test, one for each of them. -/
def cyclesOf (schedule : Placement) (test : Instruction → Bool) : List Int :=
  (schedule.filter fun placed => test placed.2).map Prod.fst

theorem count_cyclesOf (schedule : Placement) (test : Instruction → Bool) (cycle : Int) :
    (schedule.cyclesOf test).count cycle = schedule.issued test cycle := by
  rw [cyclesOf, List.count_eq_countP, List.countP_map, List.countP_filter]
  rfl

/-- The cycles in which something issues. -/
def cycles (schedule : Placement) : Finset Int :=
  (schedule.map Prod.fst).toFinset

/-- The schedule with every instruction so many cycles later. -/
def shifted (schedule : Placement) (delay : Int) : Placement :=
  schedule.map fun (cycle, instruction) => (cycle + delay, instruction)

/-- The schedule that runs backwards. -/
def mirrored (schedule : Placement) : Placement :=
  schedule.map fun (cycle, instruction) => (-cycle, instruction)

/-! ## Pairs in consecutive cycles -/

/-- How many pairs of an instruction in one schedule and an instruction in the other pass the
tests, the second in the cycle after the first. -/
def adjacencies (first second : Instruction → Bool) (earlier later : Placement) : Nat :=
  (earlier ×ˢ later).countP fun (before, after) =>
    after.1 == before.1 + 1 && first before.2 && second after.2

section

variable (first second : Instruction → Bool)

theorem adjacencies_append_left (one other later : Placement) :
    adjacencies first second (one ++ other) later =
      adjacencies first second one later + adjacencies first second other later := by
  rw [adjacencies, product_append_left, List.countP_append]
  rfl

theorem adjacencies_append_right (earlier one other : Placement) :
    adjacencies first second earlier (one ++ other) =
      adjacencies first second earlier one + adjacencies first second earlier other := by
  rw [adjacencies, (product_append_right_perm _ _ _).countP_eq, List.countP_append]
  rfl

theorem adjacencies_eq_of_perm {one other : Placement} (reordered : one.Perm other) :
    adjacencies first second other other = adjacencies first second one one :=
  (reordered.symm.product reordered.symm).countP_eq _

theorem adjacencies_shifted (earlier later : Placement) (delay : Int) :
    adjacencies first second (earlier.shifted delay) (later.shifted delay) =
      adjacencies first second earlier later := by
  rw [adjacencies, shifted, shifted, map_product_map, List.countP_map]
  apply List.countP_congr
  rintro ⟨before, after⟩ -
  have next : after.1 + delay = before.1 + delay + 1 ↔ after.1 = before.1 + 1 := by omega
  simp [next]

/-- Backwards, the second instruction of a pair comes first. -/
theorem adjacencies_mirrored (earlier later : Placement) :
    adjacencies second first later.mirrored earlier.mirrored =
      adjacencies first second earlier later := by
  rw [adjacencies, mirrored, mirrored, map_product_map, List.countP_map,
    ← (map_swap_product_perm earlier later).countP_eq, List.countP_map]
  apply List.countP_congr
  rintro ⟨before, after⟩ -
  have next : -before.1 = -after.1 + 1 ↔ after.1 = before.1 + 1 := by omega
  simp [next, and_right_comm]

theorem adjacencies_singleton (before : Int × Instruction) (later : Placement) :
    adjacencies first second [before] later =
      if first before.2 = true then later.issued second (before.1 + 1) else 0 := by
  rw [adjacencies, List.product_cons, List.nil_product, List.append_nil, List.countP_map]
  cases passes : first before.2 with
  | true =>
      apply List.countP_congr
      simp [passes]
  | false => simp [passes]

/-- Every instruction that passes the first test has the pairs with what issues in the next
cycle. -/
theorem adjacencies_eq_sum_map (earlier later : Placement) :
    adjacencies first second earlier later =
      ((earlier.cyclesOf first).map fun cycle => later.issued second (cycle + 1)).sum := by
  induction earlier with
  | nil => rfl
  | cons before earlier induction =>
      rw [← List.singleton_append, adjacencies_append_left, adjacencies_singleton, induction]
      cases passes : first before.2 with
      | true => simp [cyclesOf, passes]
      | false => simp [cyclesOf, passes]

/-- The pairs are counted cycle by cycle. -/
theorem adjacencies_eq_sum_cycles (earlier later : Placement) :
    adjacencies first second earlier later =
      ∑ cycle ∈ earlier.cycles, earlier.issued first cycle * later.issued second (cycle + 1) := by
  simp only [adjacencies_eq_sum_map, Finset.sum_list_map_count, smul_eq_mul, count_cyclesOf]
  apply Finset.sum_subset
  · intro cycle member
    rcases List.mem_map.mp (List.mem_toFinset.mp member) with ⟨before, kept, rfl⟩
    exact List.mem_toFinset.mpr (List.mem_map_of_mem (List.mem_of_mem_filter kept))
  · -- Where nothing of the first kind issues, there are no pairs.
    intro cycle _ absent
    have none : (earlier.cyclesOf first).count cycle = 0 :=
      List.count_eq_zero_of_not_mem fun member => absent (List.mem_toFinset.mpr member)
    rw [← count_cyclesOf, none, Nat.zero_mul]

end

end Placement

/-- An adjacency objective is a sum over cycles: in each, the instructions of the first kind
times those of the second kind in the next. Hence neither the order of the schedule nor the
cycle it starts in matters, a schedule that runs backwards has the pairs of the exchanged
tests, and two schedules together have the pairs of each and those between them. -/
theorem evaluate_adjacentPairs_eq_sum (name : String) (sense : Sense)
    (first second : Instruction → Bool) (schedule : Placement) :
    let objective : Objective := ⟨name, sense, .adjacentPairs first second⟩
    let exchanged : Objective := ⟨name, sense, .adjacentPairs second first⟩
    objective.evaluate schedule =
        ∑ cycle ∈ schedule.cycles,
          schedule.issued first cycle * schedule.issued second (cycle + 1) ∧
      (∀ other, schedule.Perm other → objective.evaluate other = objective.evaluate schedule) ∧
      (∀ delay, objective.evaluate (schedule.shifted delay) = objective.evaluate schedule) ∧
      exchanged.evaluate schedule.mirrored = objective.evaluate schedule ∧
      ∀ other : Placement, objective.evaluate (schedule ++ other) =
        objective.evaluate schedule + objective.evaluate other +
          Placement.adjacencies first second schedule other +
          Placement.adjacencies first second other schedule := by
  intro objective exchanged
  have scored : ∀ placed : Placement,
      objective.evaluate placed = Placement.adjacencies first second placed placed :=
    fun _ => rfl
  have scoredExchanged : ∀ placed : Placement,
      exchanged.evaluate placed = Placement.adjacencies second first placed placed :=
    fun _ => rfl
  simp only [scored, scoredExchanged]
  refine ⟨Placement.adjacencies_eq_sum_cycles first second schedule schedule, ?_, ?_,
    Placement.adjacencies_mirrored first second schedule schedule, ?_⟩
  · intro other reordered
    exact Placement.adjacencies_eq_of_perm first second reordered
  · intro delay
    exact Placement.adjacencies_shifted first second schedule schedule delay
  · intro other
    rw [Placement.adjacencies_append_left, Placement.adjacencies_append_right,
      Placement.adjacencies_append_right]
    omega

/-- Two products issue in one cycle and two sums in the next, listed in any order. -/
theorem evaluate_adjacentPairs_eq_sum_dual_issue :
    let product : Instruction :=
      ⟨.registerForm "mul_v" .mulV "mul" none [.vector] [] [.vector, .vector],
        ["v0", "v1", "v2"], rfl, none, none⟩
    let sum : Instruction :=
      ⟨.registerForm "add_v" .addV "add" none [.vector] [] [.vector, .vector],
        ["v3", "v0", "v0"], rfl, none, none⟩
    let objective : Objective :=
      ⟨"chains", .minimize, .adjacentPairs Instruction.isVectorMul Instruction.isVectorAddSub⟩
    let schedule : Placement := [(1, sum), (0, product), (3, sum), (1, sum), (0, product)]
    schedule.Perm schedule.reverse ∧ objective.evaluate schedule = 4 ∧
      objective.evaluate schedule.reverse = objective.evaluate schedule := by
  intro product sum objective schedule
  have reordered : schedule.Perm schedule.reverse := (List.reverse_perm schedule).symm
  have laws := evaluate_adjacentPairs_eq_sum "chains" .minimize Instruction.isVectorMul
    Instruction.isVectorAddSub schedule
  exact ⟨reordered, rfl, laws.2.1 _ reordered⟩

end IssueTiming
