import IssueTiming.Isa.Dialect

/-!
# Armv8.1-M with Helium

The M-profile vector extension. The vector and the scalar form of `vmul` share a
mnemonic; the class of the last slot tells them apart.
-/

namespace IssueTiming

def heliumVariants : List Variant :=
  [.registerForm "vmul" .vmul "vmul" (some .any) [.vector] [] [.vector, .vector],
    .registerForm "vmul_scalar" .vmulScalar "vmul" (some .integer) [.vector] [] [.vector, .gpr],
    .registerForm "vmla" .vmla "vmla" (some .integer) [] [.vector] [.vector, .gpr],
    .registerForm "vqdmulh" .vqdmulh "vqdmulh" (some .signed) [.vector] [] [.vector, .vector],
    .registerForm "vadd" .vadd "vadd" (some .any) [.vector] [] [.vector, .vector],
    .registerForm "vsub" .vsub "vsub" (some .any) [.vector] [] [.vector, .vector],
    .registerForm "add" .add "add" none [.gpr] [] [.gpr, .gpr],
    .memoryForm "vldrw" .vldrw "vldrw" (some .word) .load [.vector] [.gpr],
    .memoryForm "vstrw" .vstrw "vstrw" (some .word) .store [] [.vector, .gpr],
    .registerForm "qsave" .qsave "qsave" none [.vectorStack] [] [.vector],
    .registerForm "qrestore" .qrestore "qrestore" none [.vector] [] [.vectorStack],
    .registerForm "rsave" .rsave "rsave" none [.gprStack] [] [.gpr],
    .registerForm "rrestore" .rrestore "rrestore" none [.gpr] [] [.gprStack],
    .registerForm "nop" .nop "nop" none [] [] []]

def heliumRegisters : RegisterFile :=
  .numbered ("r", 15) ("q", 8) ("QSTACK", 8) ("RSTACK", 8)

def helium : Dialect where
  name := "Arm_v81M"
  description := "Armv8.1-M with Helium (MVE)"
  variants := heliumVariants
  registers := heliumRegisters

end IssueTiming
