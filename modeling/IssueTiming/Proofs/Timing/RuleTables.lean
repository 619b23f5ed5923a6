import IssueTiming.Timing.RuleTable
import Mathlib.Data.List.Find

/-!
# What a rule table looks at

The tests that rules are written with look at the operation, the memory access
and the kind of suffix. Instructions that agree in these are priced alike,
whatever their operands, so a table that prices one of them prices all of them.
-/

namespace IssueTiming

/-- Two instructions agree in all that the tests of cost rules look at. -/
structure Instruction.Alike (left right : Instruction) : Prop where
  opcode : left.opcode = right.opcode
  memory : left.variant.memory = right.variant.memory
  float : left.suffix.any isFloatSuffix = right.suffix.any isFloatSuffix

/-- A test that answers the same for instructions that agree. -/
def Uniform (test : Instruction → Bool) : Prop :=
  ∀ left right : Instruction, left.Alike right → test left = test right

theorem uniform_of_traits (test : Opcode → Option MemoryAccess → Bool → Bool) :
    Uniform fun instruction => test instruction.opcode instruction.variant.memory
      (instruction.suffix.any isFloatSuffix) := by
  intro left right alike
  simp only [alike.opcode, alike.memory, alike.float]

namespace Instruction

@[simp] theorem uniform_isVectorMul : Uniform isVectorMul :=
  uniform_of_traits fun opcode _ _ => opcode.isVectorMul

@[simp] theorem uniform_isVectorAddSub : Uniform isVectorAddSub :=
  uniform_of_traits fun opcode _ _ => opcode.isVectorAddSub

@[simp] theorem uniform_isVectorArithmetic : Uniform isVectorArithmetic :=
  uniform_of_traits fun opcode _ _ => opcode.isVectorMul || opcode.isVectorAddSub

@[simp] theorem uniform_isVectorLoad : Uniform isVectorLoad :=
  uniform_of_traits fun opcode _ _ => opcode.isVectorLoad

@[simp] theorem uniform_isAnyLoad : Uniform isAnyLoad :=
  uniform_of_traits fun opcode memory _ => memory == some .load || opcode.isStackLoad

@[simp] theorem uniform_isAnyStore : Uniform isAnyStore :=
  uniform_of_traits fun opcode memory _ => memory == some .store || opcode.isStackStore

@[simp] theorem uniform_isStackAccess : Uniform isStackAccess :=
  uniform_of_traits fun opcode _ _ => opcode.isStackLoad || opcode.isStackStore

@[simp] theorem uniform_isFloat : Uniform isFloat :=
  uniform_of_traits fun opcode _ float => opcode == .fmul || float

@[simp] theorem uniform_isFloatMul : Uniform isFloatMul :=
  uniform_of_traits fun opcode _ float => (opcode == .fmul || float) && opcode.isVectorMul

@[simp] theorem uniform_isFloatArithmetic : Uniform isFloatArithmetic :=
  uniform_of_traits fun opcode _ float =>
    (opcode == .fmul || float) && (opcode.isVectorMul || opcode.isVectorAddSub)

end Instruction

namespace Key

@[simp] theorem uniform_operation (opcode : Opcode) : Uniform (operation opcode).covers :=
  uniform_of_traits fun found _ _ => found == opcode

@[simp] theorem uniform_satisfies {test : Instruction → Bool} (uniform : Uniform test) :
    Uniform (satisfies test).covers :=
  uniform

@[simp] theorem uniform_anyOf {keys : List Key} (uniform : ∀ key ∈ keys, Uniform key.covers) :
    Uniform (anyOf keys).covers := by
  intro left right alike
  simp only [covers, anyCovers_eq_any]
  rw [Bool.eq_iff_iff, List.any_eq_true, List.any_eq_true]
  exact exists_congr fun key => and_congr_right fun member => by
    rw [uniform key member left right alike]

@[simp] theorem uniform_operations (opcodes : List Opcode) :
    Uniform (operations opcodes).covers :=
  uniform_anyOf (by simp)

end Key

namespace RuleTable

variable {value : Type}

/-- A table whose keys are uniform gives instructions that agree the same value. -/
theorem lookup_eq_of_alike {table : RuleTable value}
    (uniform : ∀ rule ∈ table.rules, Uniform rule.1.covers) {left right : Instruction}
    (alike : left.Alike right) : table.lookup left = table.lookup right := by
  have found : (table.rules.find? fun rule => rule.1.covers left) =
      table.rules.find? fun rule => rule.1.covers right :=
    List.find?_congr fun rule member => uniform rule member left right alike
  simp only [lookup, found]

theorem resolve_eq_ok_iff (table : RuleTable value) (instruction : Instruction) (found : value) :
    table.resolve instruction = .ok found ↔ table.lookup instruction = some found := by
  unfold resolve
  cases table.lookup instruction with
  | none => simp
  | some priced => simp

theorem resolve_eq_of_alike {table : RuleTable value}
    (uniform : ∀ rule ∈ table.rules, Uniform rule.1.covers) {left right : Instruction}
    (alike : left.Alike right) {found : value} (priced : table.lookup right = some found) :
    table.resolve left = table.resolve right := by
  have same := (lookup_eq_of_alike uniform alike).trans priced
  rw [(resolve_eq_ok_iff _ _ _).mpr same, (resolve_eq_ok_iff _ _ _).mpr priced]

/-- A value that is looked up stands in a rule or is the fallback. -/
theorem mem_of_lookup_eq_some {table : RuleTable value} {instruction : Instruction}
    {found : value} (priced : table.lookup instruction = some found) :
    found ∈ table.rules.map Prod.snd ∨ table.fallback = some found := by
  unfold lookup at priced
  split at priced
  · next key first isFirst =>
    rcases Option.some.inj priced with rfl
    exact .inl (List.mem_map_of_mem (List.mem_of_find?_eq_some isFirst))
  · exact .inr priced

end RuleTable

end IssueTiming
