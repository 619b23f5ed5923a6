import IssueTiming.Isa.Variant

/-!
# Instructions

An instruction is one occurrence of a variant with an operand name in every
slot. The roles of the operands are read off the variant's slots, so a list of
operands in source order is all that is stored.
-/

namespace IssueTiming

/-- How a load or store addresses memory. Write-back and post-increment are part
of the text of the address; the base register does not count as written. -/
structure Address where
  base : String
  /-- The offset inside the brackets, without its `#`. -/
  preIndex : Option String
  /-- The offset after the brackets, without its `#`. -/
  postIndex : Option String
  /-- Whether a `!` follows the brackets. -/
  writeback : Bool
deriving DecidableEq, Repr

namespace Address

/-- What the base register advances by, if the access moves it. -/
def increment (address : Address) : Option String :=
  if address.writeback then address.preIndex else address.postIndex

/-- An offset with the comma and the `#` that introduce it, if there is one. -/
def renderOffset : Option String → String
  | none => ""
  | some offset => ", #" ++ offset

def render (address : Address) : String :=
  "[" ++ address.base ++ renderOffset address.preIndex ++ "]"
    ++ (if address.writeback then "!" else "") ++ renderOffset address.postIndex

example : render ⟨"x0", some "16", none, true⟩ = "[x0, #16]!" := by decide

example : render ⟨"r0", none, some "16", false⟩ = "[r0], #16" := by decide

end Address

structure Instruction where
  variant : Variant
  /-- One name per slot, in source order. -/
  operands : List String
  operands_length : operands.length = variant.operandCount
  suffix : Option String
  address : Option Address
deriving DecidableEq

/-- The operands do not fill the slots of a variant. -/
structure OperandMismatch where
  variant : String
  expected : Nat
  found : Nat
deriving DecidableEq, Repr

namespace Instruction

/-- The instruction with the given operand names. Nothing but their number is
checked: a name need not belong to the class of its slot. -/
def ofOperands (variant : Variant) (operands : List String) (suffix : Option String)
    (address : Option Address) : Except OperandMismatch Instruction :=
  if filled : operands.length = variant.operandCount then
    .ok ⟨variant, operands, filled, suffix, address⟩
  else
    .error ⟨variant.name, variant.operandCount, operands.length⟩

def opcode (instruction : Instruction) : Opcode :=
  instruction.variant.opcode

def mnemonic (instruction : Instruction) : String :=
  instruction.variant.mnemonic

/-- The names that are only written. -/
def outputs (instruction : Instruction) : List String :=
  instruction.operands.take instruction.variant.outputs.length

/-- The names that are read and written. -/
def inOuts (instruction : Instruction) : List String :=
  (instruction.operands.drop instruction.variant.outputs.length).take
    instruction.variant.inOuts.length

/-- The names that are only read, the base of an address included. -/
def inputs (instruction : Instruction) : List String :=
  instruction.operands.drop instruction.variant.writtenCount

/-- The name written at an index, counting the outputs and then the in-outs. -/
def written? (instruction : Instruction) (index : Nat) : Option String :=
  (instruction.operands.take instruction.variant.writtenCount)[index]?

/-- The names that are read: the in-outs, then the inputs. -/
def reads (instruction : Instruction) : List String :=
  instruction.operands.drop instruction.variant.outputs.length

/-- Whether every operand names a register of its slot's class. -/
def fits (registers : RegisterFile) (instruction : Instruction) : Bool :=
  (instruction.variant.slots.zip instruction.operands).all fun (registerClass, name) =>
    registers.contains registerClass name

/-- The operand texts, where an address takes the place of the last operand. -/
def operandTexts (instruction : Instruction) : List String :=
  match instruction.address with
  | none => instruction.operands
  | some address => instruction.operands.dropLast ++ [address.render]

def render (instruction : Instruction) : String :=
  instruction.mnemonic
    ++ (match instruction.suffix with
        | none => ""
        | some suffix => "." ++ suffix)
    ++ (match instruction.operandTexts with
        | [] => ""
        | texts => " " ++ String.intercalate ", " texts)

/-! The roles divide the operands of an instruction. -/

theorem operands_eq (instruction : Instruction) :
    instruction.operands =
      instruction.outputs ++ instruction.inOuts ++ instruction.inputs := by
  simp only [outputs, inOuts, inputs, Variant.writtenCount, List.append_assoc]
  rw [← List.drop_drop, List.take_append_drop, List.take_append_drop]

theorem reads_eq (instruction : Instruction) :
    instruction.reads = instruction.inOuts ++ instruction.inputs := by
  simp only [reads, inOuts, inputs, Variant.writtenCount]
  rw [← List.drop_drop, List.take_append_drop]

end Instruction

end IssueTiming
