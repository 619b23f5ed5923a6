import IssueTiming.Proofs.Timing.RuleTables
import IssueTiming.Schedule.Objective
import IssueTiming.Schedule.Program
import Mathlib.Data.List.Forall2

/-!
# Programs and schedules whose instructions agree

What is selected from a program, and how a schedule is scored, depends on tests of the
instructions. Where the tests are uniform, every instruction may be exchanged for one
that agrees with it.
-/

namespace IssueTiming

/-! ## Related lists -/

section

variable {α β γ : Type} {related : α → β → Prop} {left : List α} {right : List β}

theorem filter_map_eq_of_forall₂ (lists : List.Forall₂ related left right)
    {leftTest : α → Bool} {rightTest : β → Bool} {leftResult : α → γ} {rightResult : β → γ}
    (sameTest : ∀ first second, related first second → leftTest first = rightTest second)
    (sameResult : ∀ first second, related first second → leftResult first = rightResult second) :
    (left.filter leftTest).map leftResult = (right.filter rightTest).map rightResult := by
  induction lists with
  | nil => rfl
  | cons heads tails induction =>
      rw [List.filter_cons, List.filter_cons, sameTest _ _ heads]
      split
      · rw [List.map_cons, List.map_cons, sameResult _ _ heads, induction]
      · exact induction

theorem countP_eq_of_forall₂ (lists : List.Forall₂ related left right)
    {leftTest : α → Bool} {rightTest : β → Bool}
    (sameTest : ∀ first second, related first second → leftTest first = rightTest second) :
    left.countP leftTest = right.countP rightTest := by
  have marks : (left.filter leftTest).map (fun _ => ()) = (right.filter rightTest).map fun _ => () :=
    filter_map_eq_of_forall₂ lists sameTest fun _ _ _ => rfl
  simpa [List.countP_eq_length_filter] using congrArg List.length marks

end

/-! ## Programs -/

/-- Two nodes with one number and instructions that agree. -/
structure Node.Alike (left right : Node) : Prop where
  number : left.number = right.number
  instruction : left.instruction.Alike right.instruction

namespace Program

/-- Two programs whose nodes agree one by one. -/
def Alike (left right : Program) : Prop :=
  List.Forall₂ Node.Alike left.nodes right.nodes

theorem forall₂_orderedPairs {α β : Type} {related : α → β → Prop} {left : List α}
    {right : List β} (lists : List.Forall₂ related left right) :
    List.Forall₂ (fun first second => related first.1 second.1 ∧ related first.2 second.2)
      (orderedPairs left) (orderedPairs right) := by
  induction lists with
  | nil => exact .nil
  | cons heads tails induction =>
      apply List.rel_append
      · exact List.rel_map (fun _ _ later => ⟨heads, later⟩) tails
      · exact induction

section

variable {left right : Program} {γ : Type}

/-- What is made of the numbers of selected nodes is the same for both programs. -/
theorem map_nodesWhere_eq (alike : left.Alike right) {test : Instruction → Bool}
    (uniform : Uniform test) (result : Nat → γ) :
    (left.nodesWhere test).map (fun node => result node.number) =
      (right.nodesWhere test).map fun node => result node.number := by
  apply filter_map_eq_of_forall₂ alike
  · intro first second agree
    exact uniform _ _ agree.instruction
  · intro first second agree
    rw [agree.number]

/-- What is made of the numbers of selected pairs is the same for both programs. -/
theorem map_pairsWhere_eq (alike : left.Alike right) {firstTest secondTest : Instruction → Bool}
    (uniformFirst : Uniform firstTest) (uniformSecond : Uniform secondTest)
    (result : Nat → Nat → γ) :
    (left.pairsWhere fun first second => firstTest first && secondTest second).map
        (fun pair => result pair.1.number pair.2.number) =
      (right.pairsWhere fun first second => firstTest first && secondTest second).map
        fun pair => result pair.1.number pair.2.number := by
  apply filter_map_eq_of_forall₂ (forall₂_orderedPairs alike)
  · intro first second agree
    simp only [uniformFirst _ _ agree.1.instruction, uniformSecond _ _ agree.2.instruction]
  · intro first second agree
    rw [agree.1.number, agree.2.number]

end

end Program

/-! ## Schedules -/

/-- Two placements in the same cycles, of instructions that agree. -/
structure PlacedAlike (left right : Int × Instruction) : Prop where
  cycle : left.1 = right.1
  instruction : left.2.Alike right.2

theorem ObjectiveTerm.evaluate_adjacentPairs_eq {first second : Instruction → Bool}
    (uniformFirst : Uniform first) (uniformSecond : Uniform second) {left right : Placement}
    (alike : List.Forall₂ PlacedAlike left right) :
    (adjacentPairs first second).evaluate left = (adjacentPairs first second).evaluate right := by
  have pairs : List.Forall₂ (fun before after => PlacedAlike before.1 after.1 ∧
        PlacedAlike before.2 after.2)
      (left.flatMap fun earlier => left.map fun later => (earlier, later))
      (right.flatMap fun earlier => right.map fun later => (earlier, later)) :=
    List.rel_flatMap alike fun _ _ earlier => List.rel_map (fun _ _ later => ⟨earlier, later⟩) alike
  apply countP_eq_of_forall₂ pairs
  intro before after agree
  simp only [agree.1.cycle, agree.2.cycle, uniformFirst _ _ agree.1.instruction,
    uniformSecond _ _ agree.2.instruction]

end IssueTiming
