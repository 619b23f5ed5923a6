import IssueTiming.Proofs.Assembly.RoundTrip

/-!
# Candidates

What every candidate for a line is like, whatever variants and registers a dialect
lists. A candidate is well formed: its operands, its suffix and its address are those
its variant asks for, and none of its texts is anything that a line cannot hold. Two
candidates for one line have the same operands, suffix and address, so an ambiguous
line leaves open only the roles of its operands and the variant.
-/

namespace IssueTiming

open Text Assembly

namespace Instruction

/-! ## Roles -/

section

variable (instruction : Instruction)

/-- The operands fill the slots that are written and, behind them, those that are only
read. -/
theorem length_operands : instruction.operands.length =
    instruction.variant.writtenCount + instruction.variant.inputs.length :=
  instruction.operands_length.trans instruction.variant.operandCount_eq

theorem length_outputs : instruction.outputs.length = instruction.variant.outputs.length := by
  have filled := instruction.length_operands
  rw [Variant.writtenCount] at filled
  rw [outputs, List.length_take]
  omega

theorem length_inOuts : instruction.inOuts.length = instruction.variant.inOuts.length := by
  have filled := instruction.length_operands
  rw [Variant.writtenCount] at filled
  rw [inOuts, List.length_take, List.length_drop]
  omega

theorem length_inputs : instruction.inputs.length = instruction.variant.inputs.length := by
  rw [inputs, List.length_drop, length_operands]
  exact Nat.add_sub_cancel_left _ _

theorem isSome_written?_iff (index : Nat) :
    (instruction.written? index).isSome = true ↔ index < instruction.variant.writtenCount := by
  have filled := instruction.length_operands
  rw [written?, Option.isSome_iff_ne_none, ne_eq, List.getElem?_eq_none_iff, List.length_take]
  omega

end

/-- An instruction that keeps to its variant and to the register file in every part. -/
structure WellFormed (registers : RegisterFile) (instruction : Instruction) : Prop where
  outputs : instruction.outputs.length = instruction.variant.outputs.length
  inOuts : instruction.inOuts.length = instruction.variant.inOuts.length
  inputs : instruction.inputs.length = instruction.variant.inputs.length
  written : ∀ index, (instruction.written? index).isSome = true ↔
    index < instruction.variant.writtenCount
  /-- The suffix is of the variant's kind, an address is there if the variant accesses
  memory, and every operand is a register of its slot's class. -/
  conforms : instruction.Conforms registers
  /-- The operands are identifiers, the last of them is the base of the address, and the
  offsets of the address can stand in a line. -/
  operands : WellFormedOperands instruction.operands instruction.address
  /-- Its parts are what the constructor of instructions accepts. -/
  built : ofOperands instruction.variant instruction.operands instruction.suffix
    instruction.address = .ok instruction

theorem wellFormed_of_mem_accepted {dialect : Dialect} {line : List Char}
    {instruction : Instruction}
    (member : instruction ∈ accepted (readings dialect (code line))) :
    instruction.WellFormed dialect.registers where
  outputs := instruction.length_outputs
  inOuts := instruction.length_inOuts
  inputs := instruction.length_inputs
  written := instruction.isSome_written?_iff
  conforms := ((mem_accepted_iff _ _ _).mp member).2.2
  operands := (legible_of_mem_accepted member).operands
  built := dif_pos instruction.operands_length

/-! ## Two readings of one text -/

/-- Two instructions that one text says: they may differ in the roles of their operands
and in the case of letters in the mnemonic. -/
structure SaidAlike (left right : Instruction) : Prop where
  operands : left.outputs ++ left.inOuts ++ left.inputs =
    right.outputs ++ right.inOuts ++ right.inputs
  suffix : left.suffix = right.suffix
  address : left.address = right.address
  memory : left.variant.memory.isSome = right.variant.memory.isSome
  mnemonic : sameWord left.mnemonic.toList right.mnemonic.toList = true
  render : ∃ rest, left.render = left.mnemonic ++ rest ∧ right.render = right.mnemonic ++ rest

/-- Behind the mnemonic, the text of an instruction is made of its suffix, its operands
and its address. -/
theorem exists_render_eq {left right : Instruction} (operands : left.operands = right.operands)
    (suffix : left.suffix = right.suffix) (address : left.address = right.address) :
    ∃ rest, left.render = left.mnemonic ++ rest ∧ right.render = right.mnemonic ++ rest := by
  have texts : left.operandTexts = right.operandTexts := by
    rw [operandTexts, operands, address, operandTexts]
  refine ⟨_, String.append_assoc, ?_⟩
  rw [render, String.append_assoc, suffix, texts]

theorem saidAlike_of_conveys {registers : RegisterFile} {statement : Statement}
    {left right : Instruction} (leftConveyed : statement.Conveys left)
    (rightConveyed : statement.Conveys right) (leftConforms : left.Conforms registers)
    (rightConforms : right.Conforms registers) : left.SaidAlike right := by
  rcases leftConveyed.operands.unique rightConveyed.operands with ⟨operands, address⟩
  have suffix : left.suffix = right.suffix := leftConveyed.suffix.symm.trans rightConveyed.suffix
  constructor
  · rw [← operands_eq, ← operands_eq, operands]
  · exact suffix
  · exact address
  · rw [← leftConforms.address, address, rightConforms.address]
  · exact (sameWord_iff _ _).mpr (leftConveyed.mnemonic.symm.trans rightConveyed.mnemonic)
  · exact exists_render_eq operands suffix address

theorem saidAlike_of_mem_accepted {dialect : Dialect} {text : List Char}
    {left right : Instruction} (isLeft : left ∈ accepted (readings dialect text))
    (isRight : right ∈ accepted (readings dialect text)) : left.SaidAlike right := by
  rcases (mem_accepted_iff _ _ _).mp isLeft with ⟨-, leftConveyed, leftConforms⟩
  rcases (mem_accepted_iff _ _ _).mp isRight with ⟨-, rightConveyed, rightConforms⟩
  exact saidAlike_of_conveys leftConveyed rightConveyed leftConforms rightConforms

end Instruction

namespace Assembly

/-! ## The candidates for a line -/

/-- Every candidate for a line is well formed. The constructor of instructions never
refuses what a variant has read. -/
theorem wellFormed_candidates (dialect : Dialect) (line : String) :
    (∀ mismatch, parseLine dialect line ≠ .error (.operandCount mismatch)) ∧
      ∀ candidates, parseLine dialect line = .ok candidates →
        ∀ candidate ∈ candidates, candidate.WellFormed dialect.registers := by
  constructor
  · intro mismatch
    unfold parseLine
    dsimp only
    split
    · simp
    · simp
  · intro candidates parsed candidate member
    rcases (parseLine_eq_ok_iff _ _ _).mp parsed with ⟨-, rfl⟩
    exact Instruction.wellFormed_of_mem_accepted member

theorem wellFormed_candidates_store :
    let store : Instruction :=
      ⟨.memoryForm "str" .str "str" none .store [] [.vector, .gpr], ["v3", "x0"], rfl, none,
        some ⟨"x0", some "16", none, true⟩⟩
    parseLine neon "str v3, [x0, # 16 ]! @ next row" = .ok [store] ∧
      store.WellFormed neon.registers := by
  intro store
  have parsed : parseLine neon "str v3, [x0, # 16 ]! @ next row" = .ok [store] :=
    (parseLine_eq_ok_iff _ _ _).mpr ⟨by simp, by decide +kernel⟩
  exact ⟨parsed, (wellFormed_candidates neon _).2 _ parsed store (by simp)⟩

/-- All candidates for a line say the same. -/
theorem saidAlike_candidates (dialect : Dialect) (line : String) (candidates : List Instruction)
    (parsed : parseLine dialect line = .ok candidates) (left right : Instruction)
    (isLeft : left ∈ candidates) (isRight : right ∈ candidates) : left.SaidAlike right := by
  rcases (parseLine_eq_ok_iff _ _ _).mp parsed with ⟨-, rfl⟩
  exact Instruction.saidAlike_of_mem_accepted isLeft isRight

/-- A dialect in which one text loads a register or stores it. -/
theorem saidAlike_candidates_move :
    let load : Variant := .memoryForm "load" .ldrX "mov" none .load [.gpr] [.gpr]
    let store : Variant := .memoryForm "store" .strX "MOV" none .store [] [.gpr, .gpr]
    let dialect : Dialect := ⟨"Moves", "one text, two directions", [load, store], neonRegisters⟩
    let address : Address := ⟨"x2", some "8", none, true⟩
    let loaded : Instruction := ⟨load, ["x1", "x2"], rfl, none, some address⟩
    let stored : Instruction := ⟨store, ["x1", "x2"], rfl, none, some address⟩
    parseLine dialect "Mov x1, [x2, #8]!" = .ok [loaded, stored] ∧
      loaded.outputs = ["x1"] ∧ stored.outputs = [] ∧ loaded.SaidAlike stored := by
  intro load store dialect address loaded stored
  have parsed : parseLine dialect "Mov x1, [x2, #8]!" = .ok [loaded, stored] :=
    (parseLine_eq_ok_iff _ _ _).mpr ⟨by simp, by decide +kernel⟩
  exact ⟨parsed, rfl, rfl,
    saidAlike_candidates dialect _ _ parsed loaded stored (by simp) (by simp)⟩

end Assembly

end IssueTiming
