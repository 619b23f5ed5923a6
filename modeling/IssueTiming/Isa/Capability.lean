import IssueTiming.Isa.Instruction

/-!
# What an instruction does

Tests that cost rules are written with. They look at the operation, at the
direction of a memory access and at the datatype suffix, never at the names of
operands, so renaming registers changes none of them.
-/

namespace IssueTiming

namespace Opcode

def isVectorMul : Opcode → Bool
  | .vmul | .vmulScalar | .vmla | .vqdmulh | .mulV | .mla | .fmul => true
  | _ => false

def isMultiplyAccumulate : Opcode → Bool
  | .vmla | .mla => true
  | _ => false

def isVectorAddSub : Opcode → Bool
  | .vadd | .vsub | .addV | .subV => true
  | _ => false

def isVectorLoad : Opcode → Bool
  | .vldrw | .ldr => true
  | _ => false

def isVectorStore : Opcode → Bool
  | .vstrw | .str | .stp => true
  | _ => false

def isStackStore : Opcode → Bool
  | .qsave | .rsave | .vsave | .xsave => true
  | _ => false

def isStackLoad : Opcode → Bool
  | .qrestore | .rrestore | .vrestore | .xrestore => true
  | _ => false

end Opcode

namespace Instruction

def isVectorMul (instruction : Instruction) : Bool :=
  instruction.opcode.isVectorMul

def isMultiplyAccumulate (instruction : Instruction) : Bool :=
  instruction.opcode.isMultiplyAccumulate

def isVectorAddSub (instruction : Instruction) : Bool :=
  instruction.opcode.isVectorAddSub

def isLoad (instruction : Instruction) : Bool :=
  instruction.variant.memory == some .load

def isVectorLoad (instruction : Instruction) : Bool :=
  instruction.opcode.isVectorLoad

def isStore (instruction : Instruction) : Bool :=
  instruction.variant.memory == some .store

def isVectorStore (instruction : Instruction) : Bool :=
  instruction.opcode.isVectorStore

def isStackLoad (instruction : Instruction) : Bool :=
  instruction.opcode.isStackLoad

def isStackStore (instruction : Instruction) : Bool :=
  instruction.opcode.isStackStore

def isStackAccess (instruction : Instruction) : Bool :=
  instruction.isStackLoad || instruction.isStackStore

def isFloat (instruction : Instruction) : Bool :=
  instruction.opcode == .fmul || instruction.suffix.any isFloatSuffix

def isNop (instruction : Instruction) : Bool :=
  instruction.opcode == .nop

/-! Groups that several cores price together. -/

def isAnyLoad (instruction : Instruction) : Bool :=
  instruction.isLoad || instruction.isStackLoad

def isAnyStore (instruction : Instruction) : Bool :=
  instruction.isStore || instruction.isStackStore

def isVectorArithmetic (instruction : Instruction) : Bool :=
  instruction.isVectorMul || instruction.isVectorAddSub

def isFloatMul (instruction : Instruction) : Bool :=
  instruction.isFloat && instruction.isVectorMul

def isFloatArithmetic (instruction : Instruction) : Bool :=
  instruction.isFloat && instruction.isVectorArithmetic

/-- Whether the register that `source` writes at `index` is the accumulator of
`target`, a multiply-accumulate. -/
def feedsAccumulator (source : Instruction) (index : Nat) (target : Instruction) : Bool :=
  target.isMultiplyAccumulate &&
    match source.written? index, target.inOuts.head? with
    | some written, some accumulator => written == accumulator
    | _, _ => false

end Instruction

end IssueTiming
