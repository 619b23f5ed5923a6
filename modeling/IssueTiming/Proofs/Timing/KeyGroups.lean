import IssueTiming.Isa.Helium
import IssueTiming.Timing.RuleTable
import Mathlib.Data.List.Forall2

/-!
# Groups of keys

A group covers what one of its members covers, and the members may be groups themselves.
It stands for its leaves, the keys in it that are no groups: a rule with a group decides
like consecutive rules with the leaves, and groups with the same leaves stand for each
other.
-/

namespace IssueTiming

namespace Key

/-! ## Leaves -/

def isGroup : Key → Bool
  | .anyOf _ => true
  | .operation _ | .satisfies _ => false

mutual

/-- The keys in a key that are no groups, from left to right. -/
def leaves : Key → List Key
  | .operation opcode => [.operation opcode]
  | .satisfies test => [.satisfies test]
  | .anyOf keys => allLeaves keys

def allLeaves : List Key → List Key
  | [] => []
  | key :: keys => key.leaves ++ allLeaves keys

end

theorem allLeaves_eq_flatMap (keys : List Key) : allLeaves keys = keys.flatMap leaves := by
  induction keys with
  | nil => rfl
  | cons key keys induction => rw [allLeaves, induction, List.flatMap_cons]

theorem mem_leaves_anyOf_iff (leaf : Key) (keys : List Key) :
    leaf ∈ (anyOf keys).leaves ↔ ∃ key ∈ keys, leaf ∈ key.leaves := by
  rw [leaves, allLeaves_eq_flatMap, List.mem_flatMap]

mutual

theorem isGroup_of_mem_leaves (key : Key) : ∀ leaf ∈ key.leaves, leaf.isGroup = false := by
  cases key with
  | operation opcode => simp [leaves, isGroup]
  | satisfies test => simp [leaves, isGroup]
  | anyOf keys => exact isGroup_of_mem_allLeaves keys

theorem isGroup_of_mem_allLeaves (keys : List Key) :
    ∀ leaf ∈ allLeaves keys, leaf.isGroup = false := by
  cases keys with
  | nil => simp [allLeaves]
  | cons key keys =>
      exact List.forall_mem_append.mpr ⟨isGroup_of_mem_leaves key, isGroup_of_mem_allLeaves keys⟩

end

mutual

/-- A key covers what one of its leaves covers. -/
theorem covers_eq_any_leaves (key : Key) (instruction : Instruction) :
    key.covers instruction = key.leaves.any fun leaf => leaf.covers instruction := by
  cases key with
  | operation opcode => simp [leaves]
  | satisfies test => simp [leaves]
  | anyOf keys =>
      rw [covers, leaves]
      exact anyCovers_eq_any_leaves keys instruction

theorem anyCovers_eq_any_leaves (keys : List Key) (instruction : Instruction) :
    anyCovers keys instruction = (allLeaves keys).any fun leaf => leaf.covers instruction := by
  cases keys with
  | nil => rfl
  | cons key keys =>
      rw [anyCovers, allLeaves, List.any_append, covers_eq_any_leaves key instruction,
        anyCovers_eq_any_leaves keys instruction]

end

theorem covers_eq_of_mem_leaves_iff {left right : Key}
    (same : ∀ leaf, leaf ∈ left.leaves ↔ leaf ∈ right.leaves) (instruction : Instruction) :
    left.covers instruction = right.covers instruction := by
  rw [covers_eq_any_leaves left, covers_eq_any_leaves right, Bool.eq_iff_iff, List.any_eq_true,
    List.any_eq_true]
  exact exists_congr fun leaf => and_congr_left fun _ => same leaf

/-! ## Groups that stand for each other -/

/-- The same leaves in other groups. At any depth, the members of a group may change
places, be repeated or be grouped once more. -/
inductive Regrouped : Key → Key → Prop
  | refl (key : Key) : Regrouped key key
  | symm {left right : Key} : Regrouped left right → Regrouped right left
  | trans {left middle right : Key} :
      Regrouped left middle → Regrouped middle right → Regrouped left right
  | permuted {keys others : List Key} : keys.Perm others → Regrouped (anyOf keys) (anyOf others)
  | repeated {key : Key} {keys : List Key} :
      key ∈ keys → Regrouped (anyOf keys) (anyOf (key :: keys))
  | alone (key : Key) : Regrouped key (anyOf [key])
  | nested (inner keys : List Key) :
      Regrouped (anyOf (inner ++ keys)) (anyOf (anyOf inner :: keys))
  | member {key other : Key} (keys : List Key) :
      Regrouped key other → Regrouped (anyOf (key :: keys)) (anyOf (other :: keys))

theorem Regrouped.mem_leaves_iff {left right : Key} (regrouped : left.Regrouped right)
    (leaf : Key) : leaf ∈ left.leaves ↔ leaf ∈ right.leaves := by
  induction regrouped with
  | refl key => rfl
  | symm regrouped induction => exact induction.symm
  | trans first second firstInduction secondInduction =>
      exact firstInduction.trans secondInduction
  | permuted permuted => simp only [mem_leaves_anyOf_iff, permuted.mem_iff]
  | repeated member =>
      simp only [mem_leaves_anyOf_iff, List.mem_cons, exists_eq_or_imp]
      exact (or_iff_right_of_imp fun inKey => ⟨_, member, inKey⟩).symm
  | alone key => simp [mem_leaves_anyOf_iff]
  | nested inner keys =>
      simp only [mem_leaves_anyOf_iff, List.mem_append, List.mem_cons, or_and_right, exists_or,
        exists_eq_left]
  | member keys regrouped induction =>
      simp only [mem_leaves_anyOf_iff, List.mem_cons, exists_eq_or_imp, induction]

end Key

/-! ## Rules in the place of other rules -/

namespace RuleTable

variable {value : Type}

/-- The value of the first rule that covers the instruction. -/
def firstValue? (instruction : Instruction) (rules : List (Key × value)) : Option value :=
  rules.findSome? fun rule => if rule.1.covers instruction then some rule.2 else none

theorem firstValue?_append (instruction : Instruction) (before after : List (Key × value)) :
    firstValue? instruction (before ++ after) =
      (firstValue? instruction before).or (firstValue? instruction after) :=
  List.findSome?_append

theorem firstValue?_cons (instruction : Instruction) (rule : Key × value)
    (rules : List (Key × value)) :
    firstValue? instruction (rule :: rules) =
      if rule.1.covers instruction = true then some rule.2 else firstValue? instruction rules := by
  unfold firstValue?
  cases covered : rule.1.covers instruction with
  | true => simp [covered]
  | false => simp [covered]

theorem lookup_eq_firstValue? (table : RuleTable value) (instruction : Instruction) :
    table.lookup instruction = (firstValue? instruction table.rules).or table.fallback := by
  unfold lookup
  induction table.rules with
  | nil => rfl
  | cons rule rules induction =>
      rw [firstValue?_cons]
      cases covered : rule.1.covers instruction with
      | true => simp [covered]
      | false => simpa [covered] using induction

/-- Whether rules decide alike, for an instruction, as those of the table. -/
structure DecidesAlike (table : RuleTable value) (rules : List (Key × value))
    (instruction : Instruction) : Prop where
  lookup : { table with rules }.lookup instruction = table.lookup instruction
  resolve : { table with rules }.resolve instruction = table.resolve instruction

theorem decidesAlike_of_firstValue?_eq {table : RuleTable value} {rules : List (Key × value)}
    {instruction : Instruction}
    (same : firstValue? instruction rules = firstValue? instruction table.rules) :
    table.DecidesAlike rules instruction := by
  have lookup : { table with rules }.lookup instruction = table.lookup instruction := by
    rw [lookup_eq_firstValue?, lookup_eq_firstValue?, same]
  exact ⟨lookup, by simp only [resolve, lookup]⟩

/-- The rules with one rule for every leaf in the place of each rule. The leaves of one key
stand in any order. -/
inductive Ungrouped : List (Key × value) → List (Key × value) → Prop
  | nil : Ungrouped [] []
  | cons {key : Key} {rules ungrouped : List (Key × value)} (leaves : List Key) (found : value) :
      leaves.Perm key.leaves → Ungrouped rules ungrouped →
      Ungrouped ((key, found) :: rules) (leaves.map (·, found) ++ ungrouped)

theorem firstValue?_map (instruction : Instruction) (keys : List Key) (found : value) :
    firstValue? instruction (keys.map (·, found)) =
      if (keys.any fun key => key.covers instruction) = true then some found else none := by
  induction keys with
  | nil => rfl
  | cons key keys induction =>
      rw [List.map_cons, firstValue?_cons, induction, List.any_cons]
      cases key.covers instruction <;> rfl

theorem Ungrouped.firstValue?_eq {rules ungrouped : List (Key × value)}
    (pieces : Ungrouped rules ungrouped) (instruction : Instruction) :
    firstValue? instruction ungrouped = firstValue? instruction rules := by
  induction pieces with
  | nil => rfl
  | @cons key rules ungrouped leaves found permuted pieces induction =>
      have covered : (leaves.any fun leaf => leaf.covers instruction) = key.covers instruction := by
        rw [Key.covers_eq_any_leaves, permuted.any_eq]
      rw [firstValue?_append, firstValue?_map, covered, induction, firstValue?_cons]
      cases key.covers instruction <;> rfl

theorem Ungrouped.isGroup_eq_false {rules ungrouped : List (Key × value)}
    (pieces : Ungrouped rules ungrouped) : ∀ rule ∈ ungrouped, rule.1.isGroup = false := by
  induction pieces with
  | nil => simp
  | @cons key rules ungrouped leaves found permuted pieces induction =>
      refine List.forall_mem_append.mpr ⟨?_, induction⟩
      intro rule member
      rcases List.mem_map.mp member with ⟨leaf, isLeaf, rfl⟩
      exact key.isGroup_of_mem_leaves leaf (permuted.mem_iff.mp isLeaf)

theorem firstValue?_eq_of_regrouped {rules others : List (Key × value)}
    (regrouped : List.Forall₂ (fun rule other => rule.1.Regrouped other.1 ∧ rule.2 = other.2)
      rules others) (instruction : Instruction) :
    firstValue? instruction others = firstValue? instruction rules := by
  induction regrouped with
  | nil => rfl
  | cons first rest induction =>
      have covered := Key.covers_eq_of_mem_leaves_iff first.1.mem_leaves_iff instruction
      rw [firstValue?_cons, firstValue?_cons, covered, first.2, induction]

/-- A group is a shorthand. Rules for its leaves may stand in its place, in any order, and
so may any group of the same leaves. -/
theorem decidesAlike_of_ungrouped (table : RuleTable value) (instruction : Instruction) :
    (∀ rules, Ungrouped table.rules rules →
      (∀ rule ∈ rules, rule.1.isGroup = false) ∧ table.DecidesAlike rules instruction) ∧
      ∀ rules, List.Forall₂ (fun rule other => rule.1.Regrouped other.1 ∧ rule.2 = other.2)
        table.rules rules → table.DecidesAlike rules instruction := by
  constructor
  · intro rules pieces
    exact ⟨pieces.isGroup_eq_false,
      decidesAlike_of_firstValue?_eq (pieces.firstValue?_eq instruction)⟩
  · intro rules regrouped
    exact decidesAlike_of_firstValue?_eq (firstValue?_eq_of_regrouped regrouped instruction)

/-- The first rule covers nothing, the second is of two depths, and the third would cover the
instruction too. -/
theorem decidesAlike_of_ungrouped_nested :
    let product : Instruction :=
      ⟨.registerForm "vmul" .vmul "vmul" (some .integer) [.vector] [] [.vector, .vector],
        ["q0", "q1", "q2"], rfl, some "s32", none⟩
    let sum : Key := .operation .vadd
    let float : Key := .satisfies Instruction.isFloat
    let multiply : Key := .operation .vmul
    let last : Key × Nat := (.satisfies Instruction.isVectorMul, 4)
    let table : RuleTable Nat :=
      ⟨"core", "latency", [(.anyOf [.anyOf []], 9), (.anyOf [sum, .anyOf [float, multiply]], 2),
        last], none⟩
    let ungrouped := [(multiply, 2), (sum, 2), (float, 2), last]
    let regrouped := [(.anyOf [], 9), (.anyOf [float, multiply, sum], 2), last]
    Ungrouped table.rules ungrouped ∧ table.lookup product = some 2 ∧
      table.DecidesAlike ungrouped product ∧ table.DecidesAlike regrouped product := by
  intro product sum float multiply last table ungrouped regrouped
  have turned : [multiply, sum, float].Perm (Key.anyOf [sum, .anyOf [float, multiply]]).leaves :=
    (List.perm_append_comm : ([multiply] ++ [sum, float]).Perm _)
  have pieces : Ungrouped table.rules ungrouped :=
    .cons [] 9 (.refl _) (.cons _ 2 turned (.cons [last.1] 4 (.refl _) .nil))
  have spread : (Key.anyOf [sum, .anyOf [float, multiply]]).Regrouped
      (.anyOf [float, multiply, sum]) :=
    .trans (.permuted (.swap _ _ _)) (.symm (.nested [float, multiply] [sum]))
  have others : List.Forall₂ (fun rule other => rule.1.Regrouped other.1 ∧ rule.2 = other.2)
      table.rules regrouped :=
    .cons ⟨.symm (.alone _), rfl⟩ (.cons ⟨spread, rfl⟩ (.cons ⟨.refl _, rfl⟩ .nil))
  have alike := decidesAlike_of_ungrouped table product
  exact ⟨pieces, rfl, (alike.1 _ pieces).2, alike.2 _ others⟩

end RuleTable

end IssueTiming
