import IssueTiming.Proofs.Timing.KeyGroups
import IssueTiming.Proofs.Timing.RuleTables

/-!
# The order of rules

Of the rules that cover an instruction the first one decides, so a rule matters only to the
instructions that no rule before it covers. A rule that is put in between others takes
these and leaves all other instructions to the rule, or to the fallback, that had them.
-/

namespace IssueTiming

namespace RuleTable

variable {value : Type}

/-- None of the rules covers the instruction. -/
def Uncovered (rules : List (Key × value)) (instruction : Instruction) : Prop :=
  ∀ rule ∈ rules, rule.1.covers instruction = false

/-- A rule with the key gets the instruction where the given rules stand before it. -/
def Takes (before : List (Key × value)) (key : Key) (instruction : Instruction) : Prop :=
  key.covers instruction = true ∧ Uncovered before instruction

/-! ## The first rule that covers -/

section

variable (instruction : Instruction)

theorem firstValue?_eq_none_iff (rules : List (Key × value)) :
    firstValue? instruction rules = none ↔ Uncovered rules instruction := by
  simp only [firstValue?, List.findSome?_eq_none_iff, Uncovered, ite_eq_right_iff, reduceCtorEq,
    imp_false, Bool.not_eq_true]

theorem exists_firstValue?_eq_some {rules : List (Key × value)}
    (covered : ¬ Uncovered rules instruction) :
    ∃ rule ∈ rules, rule.1.covers instruction = true ∧
      firstValue? instruction rules = some rule.2 := by
  rw [← firstValue?_eq_none_iff, ← ne_eq, Option.ne_none_iff_exists'] at covered
  rcases covered with ⟨found, first⟩
  rcases List.exists_of_findSome?_eq_some first with ⟨rule, member, given⟩
  rcases Option.ite_none_right_eq_some.mp given with ⟨covers, same⟩
  rcases Option.some.inj same with rfl
  exact ⟨rule, member, covers, first⟩

end

/-! ## A rule among others -/

variable {instruction : Instruction} {before after : List (Key × value)} {key : Key}

theorem firstValue?_eq_of_takes (takes : Takes before key instruction) (found : value) :
    firstValue? instruction (before ++ (key, found) :: after) = some found := by
  rw [firstValue?_append, (firstValue?_eq_none_iff _ _).mpr takes.2, firstValue?_cons,
    if_pos takes.1, Option.none_or]

/-- A rule makes no difference to an instruction that it does not cover or that a rule before
it covers. -/
theorem firstValue?_eq_of_not_takes (elsewhere : ¬ Takes before key instruction)
    (found : value) :
    firstValue? instruction (before ++ (key, found) :: after) =
      firstValue? instruction (before ++ after) := by
  rw [firstValue?_append, firstValue?_append, firstValue?_cons]
  by_cases uncovered : Uncovered before instruction
  · have passes : ¬ key.covers instruction = true := fun covers => elsewhere ⟨covers, uncovered⟩
    rw [if_neg passes]
  · -- An earlier rule decides, whatever stands behind it.
    rcases exists_firstValue?_eq_some instruction uncovered with ⟨rule, -, -, first⟩
    rw [first, Option.some_or, Option.some_or]

theorem insertIdx_eq_take_append_cons_drop {α : Type} {items : List α} {position : Nat}
    (within : position ≤ items.length) (item : α) :
    items.insertIdx position item = items.take position ++ item :: items.drop position := by
  induction position generalizing items with
  | zero => rfl
  | succ position induction =>
      cases items with
      | nil => cases within
      | cons head tail =>
          rw [List.insertIdx_succ_cons, induction (Nat.le_of_succ_le_succ within)]
          rfl

theorem firstValue?_exchanged {left right : Key × value}
    (apart : ¬ (left.1.covers instruction = true ∧ right.1.covers instruction = true)) :
    firstValue? instruction (before ++ right :: left :: after) =
      firstValue? instruction (before ++ left :: right :: after) := by
  simp only [firstValue?_append, firstValue?_cons]
  by_cases covers : left.1.covers instruction = true
  · have passes : ¬ right.1.covers instruction = true := fun also => apart ⟨covers, also⟩
    rw [if_neg passes, if_pos covers, if_pos covers]
  · rw [if_neg covers, if_neg covers]

/-- A rule is dead where a rule before it covers all that it covers: without it, every
instruction is decided as with it. -/
theorem decidesAlike_eraseIdx {table : RuleTable value} {earlier position : Nat}
    {first rule : Key × value} (before : earlier < position)
    (isFirst : table.rules[earlier]? = some first) (isRule : table.rules[position]? = some rule)
    (implied : ∀ any : Instruction, rule.1.covers any = true → first.1.covers any = true) :
    table.DecidesAlike (table.rules.eraseIdx position) instruction := by
  rcases List.getElem?_eq_some_iff.mp isRule with ⟨inside, rfl⟩
  have member : first ∈ table.rules.take position :=
    List.mem_of_getElem? ((List.getElem?_take_of_lt before).trans isFirst)
  have shaded : ¬ Takes (table.rules.take position) table.rules[position].1 instruction := by
    rintro ⟨covers, uncovered⟩
    exact Bool.false_ne_true ((uncovered first member).symm.trans (implied instruction covers))
  apply decidesAlike_of_firstValue?_eq
  rw [List.eraseIdx_eq_take_drop_succ,
    ← firstValue?_eq_of_not_takes shaded table.rules[position].2, List.getElem_cons_drop,
    List.take_append_drop]

/-- The fallback decides exactly where no rule does. -/
theorem uncovered_iff (table : RuleTable value) (instruction : Instruction) :
    Uncovered table.rules instruction ↔
      ∀ fallback, { table with fallback }.lookup instruction = fallback := by
  simp only [lookup_eq_firstValue?, ← firstValue?_eq_none_iff]
  constructor
  · intro missed fallback
    rw [missed, Option.none_or]
  · intro decides
    have missed := decides none
    rwa [Option.or_none] at missed

/-- A rule that is put in at a position takes the instructions that it covers and that none of
the rules before the position covers, and no others. -/
theorem insertIdx_decides_locally (table : RuleTable value) (instruction : Instruction) :
    (∀ position ≤ table.rules.length, ∀ (key : Key) (found : value),
      let inserted := table.rules.insertIdx position (key, found)
      (Takes (table.rules.take position) key instruction →
        { table with rules := inserted }.lookup instruction = some found ∧
          { table with rules := inserted }.resolve instruction = .ok found) ∧
      (¬ Takes (table.rules.take position) key instruction →
        table.DecidesAlike inserted instruction)) ∧
    (∀ (key : Key) (found : value), ¬ Uncovered table.rules instruction →
      table.DecidesAlike (table.rules ++ [(key, found)]) instruction) ∧
    (∀ (earlier position : Nat) (first rule : Key × value), earlier < position →
      table.rules[earlier]? = some first → table.rules[position]? = some rule →
      (∀ any : Instruction, rule.1.covers any = true → first.1.covers any = true) →
      table.DecidesAlike (table.rules.eraseIdx position) instruction) ∧
    (∀ (before after : List (Key × value)) (left right : Key × value),
      table.rules = before ++ left :: right :: after →
      ¬ (left.1.covers instruction = true ∧ right.1.covers instruction = true) →
      table.DecidesAlike (before ++ right :: left :: after) instruction) ∧
    (Uncovered table.rules instruction ↔
      ∀ fallback, { table with fallback }.lookup instruction = fallback) ∧
    (¬ Uncovered table.rules instruction → ∃ rule ∈ table.rules,
      rule.1.covers instruction = true ∧
        ∀ fallback, { table with fallback }.lookup instruction = some rule.2) := by
  refine ⟨?_, ?_, ?_, ?_, uncovered_iff table instruction, ?_⟩
  · intro position within key found inserted
    have placed : inserted = _ := insertIdx_eq_take_append_cons_drop within (key, found)
    constructor
    · intro takes
      have first : firstValue? instruction inserted = some found := by
        rw [placed, firstValue?_eq_of_takes takes]
      have priced : { table with rules := inserted }.lookup instruction = some found := by
        rw [lookup_eq_firstValue?, first, Option.some_or]
      exact ⟨priced, (resolve_eq_ok_iff _ _ _).mpr priced⟩
    · intro elsewhere
      apply decidesAlike_of_firstValue?_eq
      rw [placed, firstValue?_eq_of_not_takes elsewhere, List.take_append_drop]
  · intro key found covered
    apply decidesAlike_of_firstValue?_eq
    rw [firstValue?_eq_of_not_takes fun takes => covered takes.2, List.append_nil]
  · intro earlier position first rule before isFirst isRule implied
    exact decidesAlike_eraseIdx before isFirst isRule implied
  · intro before after left right isRules apart
    apply decidesAlike_of_firstValue?_eq
    rw [firstValue?_exchanged apart, isRules]
  · intro covered
    rcases exists_firstValue?_eq_some instruction covered with ⟨rule, member, covers, first⟩
    refine ⟨rule, member, covers, ?_⟩
    intro fallback
    rw [lookup_eq_firstValue?, first, Option.some_or]

/-- A rule for products goes in front of a broader one and behind it, the last of three rules
stands in the shade of the second, and the first does not cover the instruction. -/
theorem insertIdx_decides_locally_product :
    let product : Instruction :=
      ⟨.registerForm "vmul" .vmul "vmul" (some .any) [.vector] [] [.vector, .vector],
        ["q0", "q1", "q2"], rfl, some "s32", none⟩
    let float : Key × Nat := (.satisfies Instruction.isFloat, 4)
    let multiply : Key × Nat := (.satisfies Instruction.isVectorMul, 2)
    let shaded : Key × Nat := (.operation .vmul, 9)
    let table : RuleTable Nat := ⟨"core", "latency", [float, multiply, shaded], some 1⟩
    let narrow : RuleTable Nat := ⟨"core", "latency", [float], some 1⟩
    { table with rules := [float, (.operation .vmul, 7), multiply, shaded] }.lookup product =
        some 7 ∧
      table.DecidesAlike [float, multiply, (.operation .vmul, 7), shaded] product ∧
      table.DecidesAlike ([float, multiply, shaded] ++ [(.operation .vmul, 7)]) product ∧
      table.DecidesAlike [float, multiply] product ∧
      table.DecidesAlike [multiply, float, shaded] product ∧
      { narrow with fallback := some 6 }.lookup product = some 6 ∧
      (∃ rule ∈ table.rules, rule.1.covers product = true ∧
        ∀ fallback, { table with fallback }.lookup product = some rule.2) := by
  intro product float multiply shaded table narrow
  have floatPasses : float.1.covers product = false := by decide
  have onlyFloat : Uncovered [float] product := List.forall_mem_singleton.mpr floatPasses
  have inFront : multiply ∈ [float, multiply] := List.mem_cons_of_mem _ List.mem_cons_self
  have covered : ¬ Uncovered table.rules product := fun uncovered =>
    Bool.false_ne_true (uncovered multiply (List.mem_append_left [shaded] inFront)).symm
  have implied : ∀ any : Instruction,
      shaded.1.covers any = true → multiply.1.covers any = true := by
    intro any covers
    have performs : any.opcode = .vmul := eq_of_beq covers
    change any.opcode.isVectorMul = true
    rw [performs]
    rfl
  rcases insertIdx_decides_locally table product with
    ⟨inserted, appended, dead, exchanged, -, fixed⟩
  rcases insertIdx_decides_locally narrow product with ⟨-, -, -, -, free, -⟩
  refine ⟨?_, ?_, appended _ _ covered, ?_, ?_, free.mp onlyFloat (some 6), fixed covered⟩
  · exact ((inserted 1 (by decide) (.operation .vmul) 7).1 ⟨rfl, onlyFloat⟩).1
  · refine (inserted 2 (by decide) (.operation .vmul) 7).2 ?_
    rintro ⟨-, uncovered⟩
    exact Bool.false_ne_true (uncovered multiply inFront).symm
  · exact dead 1 2 multiply shaded (by decide) rfl rfl implied
  · refine exchanged [] [shaded] float multiply rfl ?_
    rintro ⟨covers, -⟩
    exact Bool.false_ne_true (floatPasses.symm.trans covers)

end RuleTable

end IssueTiming
