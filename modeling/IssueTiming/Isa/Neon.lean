import IssueTiming.Isa.Dialect

/-!
# AArch64 with Neon

Advanced SIMD and the scalar instructions around it. Loads, stores, additions
and multiplications have a vector and a scalar form with one mnemonic.
-/

namespace IssueTiming

def neonVariants : List Variant :=
  [.registerForm "mul_v" .mulV "mul" none [.vector] [] [.vector, .vector],
    .registerForm "mul_x" .mulX "mul" none [.gpr] [] [.gpr, .gpr],
    .registerForm "mla" .mla "mla" none [] [.vector] [.vector, .vector],
    .registerForm "add_v" .addV "add" none [.vector] [] [.vector, .vector],
    .registerForm "add_x" .addX "add" none [.gpr] [] [.gpr, .gpr],
    .registerForm "sub_v" .subV "sub" none [.vector] [] [.vector, .vector],
    .registerForm "fmul" .fmul "fmul" (some .float) [.vector] [] [.vector, .vector],
    .memoryForm "ldr" .ldr "ldr" none .load [.vector] [.gpr],
    .memoryForm "ldr_x" .ldrX "ldr" none .load [.gpr] [.gpr],
    .memoryForm "str" .str "str" none .store [] [.vector, .gpr],
    .memoryForm "str_x" .strX "str" none .store [] [.gpr, .gpr],
    .memoryForm "stp" .stp "stp" none .store [] [.vector, .vector, .gpr],
    .registerForm "vsave" .vsave "vsave" none [.vectorStack] [] [.vector],
    .registerForm "vrestore" .vrestore "vrestore" none [.vector] [] [.vectorStack],
    .registerForm "xsave" .xsave "xsave" none [.gprStack] [] [.gpr],
    .registerForm "xrestore" .xrestore "xrestore" none [.gpr] [] [.gprStack],
    .registerForm "nop" .nop "nop" none [] [] []]

def neonRegisters : RegisterFile :=
  .numbered ("x", 31) ("v", 32) ("VSTACK", 16) ("XSTACK", 16)

def neon : Dialect where
  name := "Arm_AArch64"
  description := "Armv8-A AArch64 with Neon"
  variants := neonVariants
  registers := neonRegisters

end IssueTiming
