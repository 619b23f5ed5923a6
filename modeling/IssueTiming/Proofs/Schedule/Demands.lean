import Mathlib.Data.Finite.Prod
import Mathlib.Data.Int.ConditionallyCompleteOrder
import Mathlib.Data.Int.Interval
import Mathlib.Data.Set.Finite.Basic
import Mathlib.Order.ConditionallyCompleteLattice.Basic
import Mathlib.Order.Interval.Finset.Nat

/-!
# Demands between issue times

A demand keeps a number of cycles between two positions of a program; a negative
number bounds how late the first may issue after the second. Demands that follow
one another form a chain, and a chain that returns to its start with a positive
total asks a time to be later than itself. Nothing else can keep finitely many
demands from being met together.
-/

namespace IssueTiming

/-- The second position issues at least so many cycles after the first. -/
structure Demand where
  first : Nat
  second : Nat
  cycles : Int

def Demand.Met (time : Nat → Int) (demand : Demand) : Prop :=
  time demand.first + demand.cycles ≤ time demand.second

/-- There are only finitely many demands between so many positions with a bound on
their cycles. -/
theorem finite_of_bounded {demands : Set Demand} {count : Nat} {low high : Int}
    (bounded : ∀ demand ∈ demands, demand.first < count ∧ demand.second < count ∧
      demand.cycles ∈ Set.Icc low high) : demands.Finite := by
  have box : (Set.Iio count ×ˢ Set.Iio count ×ˢ Set.Icc low high).Finite :=
    (Set.finite_Iio _).prod ((Set.finite_Iio _).prod (Set.finite_Icc _ _))
  refine (box.image fun parts => Demand.mk parts.1 parts.2.1 parts.2.2).subset ?_
  intro demand member
  exact ⟨(demand.first, demand.second, demand.cycles), bounded demand member, rfl⟩

/-- Demands that lead from one position to another, with the sum of their cycles. -/
inductive Chain (demands : Set Demand) : Nat → Nat → Int → Prop
  | nil (position : Nat) : Chain demands position position 0
  | snoc {start : Nat} {total : Int} {demand : Demand} :
      Chain demands start demand.first total → demand ∈ demands →
      Chain demands start demand.second (total + demand.cycles)

namespace Chain

variable {demands : Set Demand} {first last : Nat} {total : Int} {time : Nat → Int}

theorem mono {more : Set Demand} (subset : demands ⊆ more) (chain : Chain demands first last total) :
    Chain more first last total := by
  induction chain with
  | nil => exact .nil _
  | snoc chain member induction => exact .snoc induction (subset member)

/-- Times that meet all demands lie as far apart as the chains between them. -/
theorem le_of_met (met : ∀ demand ∈ demands, demand.Met time)
    (chain : Chain demands first last total) : time first + total ≤ time last := by
  induction chain with
  | nil => simp
  | @snoc total demand chain member induction =>
      have step := met demand member
      unfold Demand.Met at step
      omega

end Chain

/-- The total of the longest chain between two positions. -/
noncomputable def longest (demands : Set Demand) (first last : Nat) : Int :=
  sSup {total | Chain demands first last total}

section

variable {demands : Set Demand} {first last : Nat} {time : Nat → Int}

theorem bddAbove_chains (met : ∀ demand ∈ demands, demand.Met time) (first last : Nat) :
    BddAbove {total | Chain demands first last total} := by
  refine ⟨time last - time first, ?_⟩
  intro total chain
  have apart := chain.le_of_met met
  omega

theorem le_longest (met : ∀ demand ∈ demands, demand.Met time) {total : Int}
    (chain : Chain demands first last total) : total ≤ longest demands first last :=
  le_csSup (bddAbove_chains met first last) chain

theorem chain_longest (met : ∀ demand ∈ demands, demand.Met time)
    (reached : ∃ total, Chain demands first last total) :
    Chain demands first last (longest demands first last) :=
  Int.csSup_mem reached (bddAbove_chains met first last)

end

open Classical in
/-- Times put off so that a further demand is met: its second position waits for
the first, and what is chained to the second waits for that. -/
noncomputable def putOff (demands : Set Demand) (time : Nat → Int) (further : Demand)
    (position : Nat) : Int :=
  if ∃ total, Chain demands further.second position total then
    max (time position)
      (time further.first + further.cycles + longest demands further.second position)
  else time position

section

variable {demands : Set Demand} {time : Nat → Int} {further : Demand}

theorem le_putOff (demands : Set Demand) (time : Nat → Int) (further : Demand) (position : Nat) :
    time position ≤ putOff demands time further position := by
  unfold putOff
  split
  · exact le_max_left _ _
  · exact le_rfl

/-- What was met before is still met. -/
theorem met_putOff (met : ∀ demand ∈ demands, demand.Met time) {demand : Demand}
    (member : demand ∈ demands) : demand.Met (putOff demands time further) := by
  have before := met demand member
  unfold Demand.Met at before ⊢
  by_cases reached : ∃ total, Chain demands further.second demand.first total
  · have onward := (chain_longest met reached).snoc member
    have longer := le_longest met onward
    rw [putOff, putOff, if_pos reached, if_pos ⟨_, onward⟩]
    omega
  · have later := le_putOff demands time further demand.second
    rw [putOff, if_neg reached]
    omega

/-- The first position of the further demand does not wait for itself. -/
theorem putOff_first (met : ∀ demand ∈ demands, demand.Met time)
    (closed : ∀ position total, Chain (insert further demands) position position total →
      total ≤ 0) : putOff demands time further further.first = time further.first := by
  unfold putOff
  split
  next reached =>
    have around : Chain (insert further demands) further.second further.second
        (longest demands further.second further.first + further.cycles) :=
      .snoc ((chain_longest met reached).mono (Set.subset_insert _ _)) (Set.mem_insert _ _)
    have nonpositive := closed _ _ around
    exact max_eq_left (by omega)
  next => rfl

theorem met_putOff_further (met : ∀ demand ∈ demands, demand.Met time)
    (closed : ∀ position total, Chain (insert further demands) position position total →
      total ≤ 0) : further.Met (putOff demands time further) := by
  have standing : 0 ≤ longest demands further.second further.second := le_longest met (.nil _)
  unfold Demand.Met
  rw [putOff_first met closed, putOff, if_pos ⟨0, .nil _⟩]
  omega

end

/-- Finitely many demands can be met together exactly when no closed chain of them
has a positive total. -/
theorem exists_met_iff {demands : Set Demand} (finite : demands.Finite) :
    (∃ time, ∀ demand ∈ demands, demand.Met time) ↔
      ∀ position total, Chain demands position position total → total ≤ 0 := by
  constructor
  · intro possible position total chain
    rcases possible with ⟨time, met⟩
    have around := chain.le_of_met met
    omega
  · induction demands, finite using Set.Finite.induction_on with
    | empty => exact fun _ => ⟨fun _ => 0, by simp⟩
    | @insert further demands _ _ induction =>
        intro closed
        rcases induction fun position total chain =>
          closed position total (chain.mono (Set.subset_insert _ _)) with ⟨time, met⟩
        refine ⟨putOff demands time further, ?_⟩
        intro demand member
        rcases member with rfl | member
        · exact met_putOff_further met closed
        · exact met_putOff met member

end IssueTiming
