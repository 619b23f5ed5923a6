import IssueTiming.Proofs.Schedule.Agreement
import IssueTiming.Proofs.Schedule.Enumeration
import Mathlib.Data.Nat.Choose.Basic

/-!
# Pairs of nodes by their positions

A node may stand in a program more than once, so a selection of pairs is known by the
positions at which the nodes stand. Each two positions whose nodes pass the tests give one
pair, and the pairs come in the order of the positions. Where both nodes are to pass the same
test, it does not matter whether nodes are selected before they are paired or after.
-/

namespace IssueTiming

namespace Program

section

variable {α : Type} {items : List α} {first second : α → Bool}

/-! ## Positions -/

/-- The element at a position of a list passes a test. -/
def PassesAt (items : List α) (test : α → Bool) (position : Nat) : Prop :=
  ∃ item, items[position]? = some item ∧ test item = true

/-- Pairs of a list, one for each two positions of which the earlier passes the first test and
the later the second, in lexicographic order of the positions. -/
structure PairsAt (items : List α) (first second : α → Bool) (positions : List (Nat × Nat))
    (pairs : List (α × α)) : Prop where
  mem_iff : ∀ earlier later, (earlier, later) ∈ positions ↔
    earlier < later ∧ PassesAt items first earlier ∧ PassesAt items second later
  ascending : positions.Pairwise (Prod.Lex (· < ·) (· < ·))
  placed : List.Forall₂ (fun position pair =>
    items[position.1]? = some pair.1 ∧ items[position.2]? = some pair.2) positions pairs

theorem PassesAt.lt_length {position : Nat} (passes : PassesAt items first position) :
    position < items.length := by
  rcases passes with ⟨item, placed, -⟩
  exact (List.getElem?_eq_some_iff.mp placed).1

/-- The pairs for two tests and those for the tests exchanged cover all different positions
of which one passes the first test and the other the second. -/
theorem PairsAt.covers {forward backward : List (Nat × Nat)} {pairs exchanged : List (α × α)}
    (ahead : PairsAt items first second forward pairs)
    (back : PairsAt items second first backward exchanged) (one other : Nat) :
    (one, other) ∈ forward ∨ (other, one) ∈ backward ↔
      one ≠ other ∧ PassesAt items first one ∧ PassesAt items second other := by
  rw [ahead.mem_iff, back.mem_iff]
  constructor
  · rintro (⟨before, passesOne, passesOther⟩ | ⟨after, passesOther, passesOne⟩)
    · exact ⟨Nat.ne_of_lt before, passesOne, passesOther⟩
    · exact ⟨Nat.ne_of_gt after, passesOne, passesOther⟩
  · rintro ⟨different, passesOne, passesOther⟩
    rcases Nat.lt_or_gt_of_ne different with before | after
    · exact .inl ⟨before, passesOne, passesOther⟩
    · exact .inr ⟨after, passesOther, passesOne⟩

theorem forall₂_range_getElem? (items : List α) :
    List.Forall₂ (fun position item => items[position]? = some item)
      (List.range items.length) items := by
  apply List.forall₂_iff_get.mpr
  refine ⟨List.length_range, ?_⟩
  intro position inRange inItems
  simp [inItems]

/-- The pairs of positions of which the earlier passes the first test and the later the
second, found by pairing all positions. -/
def pairPositions (items : List α) (first second : α → Bool) : List (Nat × Nat) :=
  (orderedPairs (List.range items.length)).filter fun (earlier, later) =>
    items[earlier]?.any first && items[later]?.any second

theorem mem_pairPositions_iff (items : List α) (first second : α → Bool) (earlier later : Nat) :
    (earlier, later) ∈ pairPositions items first second ↔
      earlier < later ∧ PassesAt items first earlier ∧ PassesAt items second later := by
  have inOrder := mem_orderedPairs_iff (fun _ _ before => Nat.lt_asymm before)
    (List.pairwise_lt_range (n := items.length)) earlier later
  rw [pairPositions, List.mem_filter, inOrder, Bool.and_eq_true, Option.any_eq_true,
    Option.any_eq_true, List.mem_range, List.mem_range]
  constructor
  · rintro ⟨⟨-, -, before⟩, passes⟩
    exact ⟨before, passes⟩
  · rintro ⟨before, passesFirst, passesSecond⟩
    exact ⟨⟨passesFirst.lt_length, passesSecond.lt_length, before⟩, passesFirst, passesSecond⟩

/-- Elements are paired in the way of their positions. -/
theorem pairsAt_pairPositions (items : List α) (first second : α → Bool) :
    PairsAt items first second (pairPositions items first second)
      ((orderedPairs items).filter fun pair => first pair.1 && second pair.2) where
  mem_iff := mem_pairPositions_iff items first second
  ascending := (pairwise_orderedPairs List.pairwise_lt_range).filter _
  placed := by
    apply List.rel_filter _ (forall₂_orderedPairs (forall₂_range_getElem? items))
    rintro position pair ⟨atFirst, atSecond⟩
    simp [atFirst, atSecond]

theorem exists_pairsAt_orderedPairs (items : List α) :
    ∃ positions, PairsAt items (fun _ => true) (fun _ => true) positions (orderedPairs items) := by
  have placed := pairsAt_pairPositions items (fun _ => true) (fun _ => true)
  have all : (orderedPairs items).filter (fun _ => true && true) = orderedPairs items :=
    List.filter_eq_self.mpr fun _ _ => rfl
  rw [all] at placed
  exact ⟨_, placed⟩

/-! ## Selection and pairing -/

/-- Elements that pass a test may be selected before they are paired or after. -/
theorem filter_orderedPairs (test : α → Bool) (items : List α) :
    (orderedPairs items).filter (fun pair => test pair.1 && test pair.2) =
      orderedPairs (items.filter test) := by
  induction items with
  | nil => rfl
  | cons head tail induction =>
      rw [orderedPairs, List.filter_append, induction, List.filter_map]
      cases passes : test head with
      | false =>
          -- No pair of the head is kept, as if the head had not been there.
          simp [Function.comp_def, passes]
      | true =>
          -- The head keeps its pairs with the elements of the tail that pass.
          simp [Function.comp_def, passes, orderedPairs]

theorem length_orderedPairs (items : List α) :
    (orderedPairs items).length = items.length * (items.length - 1) / 2 := by
  induction items with
  | nil => simp [orderedPairs]
  | cons head tail induction =>
      rw [orderedPairs, List.length_append, List.length_map, induction, List.length_cons,
        Nat.triangle_succ, Nat.add_comm]

end

/-- The pairs of nodes that pass a test each are those at any two positions in order whose
nodes pass the tests, one for each and by position; with the tests exchanged they cover all
different positions. For one test they are the ordered pairs of the nodes that pass it. -/
theorem pairsWhere_agrees_with_nodesWhere (program : Program)
    (first second : Instruction → Bool) :
    let passing (one other : Instruction → Bool) : List (Node × Node) :=
      program.pairsWhere fun earlier later => one earlier && other later
    let selected := program.nodesWhere first
    (∃ forward backward,
      PairsAt program.nodes (first ∘ Node.instruction) (second ∘ Node.instruction) forward
          (passing first second) ∧
        PairsAt program.nodes (second ∘ Node.instruction) (first ∘ Node.instruction) backward
          (passing second first) ∧
        ∀ one other, (one, other) ∈ forward ∨ (other, one) ∈ backward ↔
          one ≠ other ∧ PassesAt program.nodes (first ∘ Node.instruction) one ∧
            PassesAt program.nodes (second ∘ Node.instruction) other) ∧
      (∃ positions, PairsAt selected (fun _ => true) (fun _ => true) positions
        (passing first first)) ∧
      passing first first = orderedPairs selected ∧
      (passing first first).length = selected.length * (selected.length - 1) / 2 := by
  intro passing selected
  have same : passing first first = orderedPairs selected :=
    filter_orderedPairs (first ∘ Node.instruction) program.nodes
  have ahead := pairsAt_pairPositions program.nodes (first ∘ Node.instruction)
    (second ∘ Node.instruction)
  have back := pairsAt_pairPositions program.nodes (second ∘ Node.instruction)
    (first ∘ Node.instruction)
  refine ⟨⟨_, _, ahead, back, ahead.covers back⟩, ?_, same, ?_⟩
  · rw [same]
    exact exists_pairsAt_orderedPairs selected
  · rw [same]
    exact length_orderedPairs selected

/-- A node that stands at two positions is paired with itself. -/
example (node : Node) :
    Program.pairsWhere ⟨[node, node]⟩ (fun _ _ => true) = [(node, node)] := rfl

end Program

end IssueTiming
