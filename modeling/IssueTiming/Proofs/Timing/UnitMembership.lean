import IssueTiming.Core.Catalogue
import IssueTiming.Proofs.Timing.UnitSets

/-!
# Sets of units as sets

A set that is made of a list of units has the units of the list as its members and no
others, so what the set answers is said by the list: in which order the units stand in it
and how often does not matter.
-/

namespace IssueTiming

/-- The numbers with a property, each of them once and in ascending order. -/
structure ListsAscending (numbers : List Nat) (listed : Nat → Prop) : Prop where
  ascending : numbers.Pairwise (· < ·)
  mem_iff : ∀ number, number ∈ numbers ↔ listed number

theorem ListsAscending.nodup {numbers : List Nat} {listed : Nat → Prop}
    (lists : ListsAscending numbers listed) : numbers.Nodup :=
  lists.ascending.imp Nat.ne_of_lt

theorem ListsAscending.filter {numbers : List Nat} {listed : Nat → Prop}
    (lists : ListsAscending numbers listed) (kept : Nat → Bool) :
    ListsAscending (numbers.filter kept) fun number => kept number = true ∧ listed number where
  ascending := lists.ascending.filter kept
  mem_iff number := by rw [List.mem_filter, lists.mem_iff, and_comm]

namespace UnitSet

/-! ## Members -/

section

variable {unit : Type} [ExecutionUnit unit] (units others : List unit)

end

end UnitSet

end IssueTiming
