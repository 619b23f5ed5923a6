import IssueTiming.Timing.Units
import Mathlib.Data.List.Forall2
import Mathlib.Logic.Basic

/-!
# Sets of units and what an instruction needs

A set of units is known by its members. A requirement is coherent when it can be
met: every one of its sets offers a unit that the core has, and no unit would
have to serve two sets at once.
-/

namespace IssueTiming

namespace UnitSet

theorem mem_indices_iff (set : UnitSet) (unit : Nat) :
    unit ∈ set.indices ↔ set.contains unit = true := by
  simp only [indices, List.mem_filter, List.mem_range, and_iff_right_iff_imp]
  intro member
  by_contra beyond
  simp [contains, BitVec.getLsbD_of_ge set.mask unit (by omega)] at member

theorem isEmpty_eq_true_iff (set : UnitSet) :
    set.isEmpty = true ↔ ∀ unit, set.contains unit = false := by
  rw [isEmpty, beq_iff_eq]
  constructor
  · intro zero unit
    simp [contains, zero]
  · intro absent
    apply BitVec.eq_of_getLsbD_eq
    intro unit _
    simpa [contains] using absent unit

theorem isEmpty_eq_false_iff (set : UnitSet) :
    set.isEmpty = false ↔ ∃ unit, set.contains unit = true := by
  rw [← Bool.not_eq_true, isEmpty_eq_true_iff]
  simp

theorem disjoint_iff (left right : UnitSet) :
    left.disjoint right = true ↔
      ∀ unit, ¬(left.contains unit = true ∧ right.contains unit = true) := by
  have common : left.disjoint right = (⟨left.mask &&& right.mask⟩ : UnitSet).isEmpty := rfl
  rw [common, isEmpty_eq_true_iff]
  simp [contains]

theorem isSubset_iff (set other : UnitSet) :
    set.isSubset other = true ↔ ∀ unit, set.contains unit = true → other.contains unit = true := by
  have excess : set.isSubset other = (⟨set.mask &&& ~~~other.mask⟩ : UnitSet).isEmpty := rfl
  rw [excess, isEmpty_eq_true_iff]
  apply forall_congr'
  intro unit
  by_cases inside : unit < 32
  · simp [contains, inside]
  · simp [contains, BitVec.getLsbD_of_ge set.mask unit (by omega)]

end UnitSet

namespace UnitRequirement

/-- What a requirement means on a core with so many units. -/
structure Coherent (requirement : UnitRequirement) (unitCount : Nat) : Prop where
  needed : requirement.sets ≠ []
  inhabited : ∀ set ∈ requirement.sets, ∃ unit, set.contains unit = true
  declared : ∀ set ∈ requirement.sets, ∀ unit, set.contains unit = true → unit < unitCount
  apart : requirement.sets.Pairwise fun left right =>
    ∀ unit, ¬(left.contains unit = true ∧ right.contains unit = true)

theorem coherent_iff (requirement : UnitRequirement) (unitCount : Nat) :
    requirement.Coherent unitCount ↔
      requirement.sets ≠ [] ∧ (∀ set ∈ requirement.sets, set.isEmpty = false) ∧
        (∀ set ∈ requirement.sets, ∀ unit ∈ set.indices, unit < unitCount) ∧
        requirement.sets.Pairwise fun left right => left.disjoint right = true := by
  simp only [UnitSet.isEmpty_eq_false_iff, UnitSet.mem_indices_iff, UnitSet.disjoint_iff]
  constructor
  · intro coherent
    exact ⟨coherent.needed, coherent.inhabited, coherent.declared, coherent.apart⟩
  · intro parts
    rcases parts with ⟨needed, inhabited, declared, apart⟩
    exact ⟨needed, inhabited, declared, apart⟩

instance (requirement : UnitRequirement) (unitCount : Nat) :
    Decidable (requirement.Coherent unitCount) :=
  decidable_of_iff _ (coherent_iff requirement unitCount).symm

example : (UnitRequirement.allOf [.ofIndices [0, 1], .ofIndices [2]]).Coherent 3 := by decide

/-- Sets without a common unit offer a choice of different units. -/
theorem exists_occupied {sets : List UnitSet}
    (inhabited : ∀ set ∈ sets, ∃ unit, set.contains unit = true)
    (apart : sets.Pairwise fun left right =>
      ∀ unit, ¬(left.contains unit = true ∧ right.contains unit = true)) :
    ∃ units : List Nat, List.Forall₂ (fun set unit => set.contains unit = true) sets units ∧
      units.Nodup ∧ ∀ unit ∈ units, ∃ set ∈ sets, set.contains unit = true := by
  induction sets with
  | nil => exact ⟨[], .nil, .nil, by simp⟩
  | cons set sets induction =>
      rcases List.forall_mem_cons.mp inhabited with ⟨⟨unit, member⟩, inhabitedRest⟩
      rcases List.pairwise_cons.mp apart with ⟨apartFirst, apartRest⟩
      rcases induction inhabitedRest apartRest with ⟨units, occupied, different, offered⟩
      refine ⟨unit :: units, .cons member occupied, List.nodup_cons.mpr ⟨?_, different⟩, ?_⟩
      · intro again
        rcases offered unit again with ⟨other, isOther, alsoMember⟩
        exact apartFirst other isOther unit ⟨member, alsoMember⟩
      · intro chosen isChosen
        rcases List.mem_cons.mp isChosen with rfl | later
        · exact ⟨set, List.mem_cons_self, member⟩
        · rcases offered chosen later with ⟨other, isOther, alsoMember⟩
          exact ⟨other, List.mem_cons_of_mem _ isOther, alsoMember⟩

end UnitRequirement

end IssueTiming
