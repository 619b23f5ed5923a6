import IssueTiming.Proofs.Assembly.Candidates
import Mathlib.Data.List.Forall2

/-!
# Dialects without ambiguity

Variants that share a mnemonic are told apart by the classes of their slots. Where no
name belongs to two classes, the operands of a line determine the classes of the slots
they fill, so a line has at most one candidate. Both built-in dialects are of this kind.
-/

namespace IssueTiming

open Text Assembly

/-! ## Register files -/

namespace RegisterFile

/-- No name belongs to two classes. -/
def Separate (registers : RegisterFile) : Prop :=
  Relator.LeftUnique fun registerClass name => name ∈ registers.names registerClass

/-- The letter that the names of a class begin with. -/
def initial (gpr vector vectorStack gprStack : Char) : RegisterClass → Char
  | .gpr => gpr
  | .vector => vector
  | .vectorStack => vectorStack
  | .gprStack => gprStack

/-- Classes whose names begin with letters of their own share no name. -/
theorem separate_of_initials {registers : RegisterFile} (gpr vector vectorStack gprStack : Char)
    (distinct : [gpr, vector, vectorStack, gprStack].Nodup)
    (begins : ∀ registerClass, ∀ name ∈ registers.names registerClass,
      name.toList.head? = some (initial gpr vector vectorStack gprStack registerClass)) :
    registers.Separate := by
  intro left right name inLeft inRight
  have same := Option.some.inj ((begins left name inLeft).symm.trans (begins right name inRight))
  cases left <;> cases right <;> simp_all [initial]

/-- An operand list fits the slots of variants of one signature only. -/
theorem Separate.slots_eq {registers : RegisterFile} (separate : registers.Separate)
    {left right : Instruction} (leftFits : left.fits registers = true)
    (rightFits : right.fits registers = true) (operands : left.operands = right.operands) :
    left.variant.slots = right.variant.slots := by
  have paired : ∀ instruction : Instruction, instruction.fits registers = true →
      List.Forall₂ (fun registerClass name => name ∈ registers.names registerClass)
        instruction.variant.slots instruction.operands := by
    intro instruction fits
    refine List.forall₂_iff_zip.mpr ⟨instruction.operands_length.symm, ?_⟩
    intro registerClass name member
    have contained := List.all_eq_true.mp fits _ member
    exact (contains_eq_true_iff _ _ _).mp contained
  have rightPaired := paired right rightFits
  rw [← operands] at rightPaired
  exact List.left_unique_forall₂' separate (paired left leftFits) rightPaired

theorem separate_helium : heliumRegisters.Separate := by
  apply separate_of_initials 'r' 'q' 'Q' 'R' (by decide)
  intro registerClass
  cases registerClass <;> decide +kernel

theorem separate_neon : neonRegisters.Separate := by
  apply separate_of_initials 'x' 'v' 'V' 'X' (by decide)
  intro registerClass
  cases registerClass <;> decide +kernel

end RegisterFile

/-! ## Dialects -/

/-- Two variants that no line can be read as both: their mnemonics differ in more than
the case of letters, or the classes of their slots differ. -/
def Variant.Distinct (left right : Variant) : Prop :=
  sameWord left.mnemonic.toList right.mnemonic.toList = false ∨ left.slots ≠ right.slots

instance (left right : Variant) : Decidable (left.Distinct right) :=
  inferInstanceAs (Decidable (_ ∨ _))

namespace Dialect

/-- The register classes share no name, and the variants are distinct. -/
structure Unambiguous (dialect : Dialect) : Prop where
  registers : dialect.registers.Separate
  variants : dialect.variants.Pairwise Variant.Distinct

theorem unambiguous_of_mem_builtin {dialect : Dialect} (listed : dialect ∈ builtin) :
    dialect.Unambiguous := by
  rcases List.mem_pair.mp listed with rfl | rfl
  · exact ⟨RegisterFile.separate_helium, by decide +kernel⟩
  · exact ⟨RegisterFile.separate_neon, by decide +kernel⟩

namespace Unambiguous

variable {dialect : Dialect}

/-- Of two distinct variants at most one reads a statement. -/
theorem not_both (unambiguous : dialect.Unambiguous) {statement : Statement}
    {left right : Variant} (distinct : left.Distinct right) {first second : Instruction}
    (leftRead : readAs dialect.registers statement left = .ok first)
    (rightRead : readAs dialect.registers statement right = .ok second) : False := by
  rcases (readAs_eq_ok_iff _ _ _ _).mp leftRead with ⟨rfl, leftConveyed, leftConforms⟩
  rcases (readAs_eq_ok_iff _ _ _ _).mp rightRead with ⟨rfl, rightConveyed, rightConforms⟩
  have alike := Instruction.saidAlike_of_conveys leftConveyed rightConveyed leftConforms
    rightConforms
  have operands : first.operands = second.operands := by
    rw [first.operands_eq, alike.operands, ← second.operands_eq]
  rcases distinct with differ | differ
  · exact absurd (alike.mnemonic.symm.trans differ) (by decide)
  · exact differ (unambiguous.registers.slots_eq leftConforms.fits rightConforms.fits operands)

/-- What one variant reads is all that any variant reads. -/
theorem accepted_eq_singleton (unambiguous : dialect.Unambiguous) {text : List Char}
    {instruction : Instruction} (member : instruction ∈ accepted (readings dialect text)) :
    accepted (readings dialect text) = [instruction] := by
  have lonely : (accepted (readings dialect text)).Pairwise fun _ _ => False := by
    rw [accepted, readings, List.filterMap_map, List.pairwise_filterMap]
    apply unambiguous.variants.imp
    intro left right distinct first leftRead second rightRead
    exact unambiguous.not_both distinct ((toOption_eq_some_iff _ _).mp leftRead)
      ((toOption_eq_some_iff _ _).mp rightRead)
  cases candidates : accepted (readings dialect text) with
  | nil =>
      rw [candidates] at member
      cases member
  | cons first others =>
      rw [candidates] at member lonely
      have single : others = [] := List.eq_nil_iff_forall_not_mem.mpr fun other later =>
        List.rel_of_pairwise_cons lonely later
      rw [single, List.mem_singleton] at member
      rw [single, member]

end Unambiguous

end Dialect

/-! ## The built-in dialects -/

namespace Assembly

/-- A line of a built-in dialect has no reading or one. Whoever takes the first candidate
for a line has taken the reading of every variant that reads it. -/
theorem parseLine_error_or_single (dialect : Dialect) (listed : dialect ∈ Dialect.builtin)
    (line : String) :
    (∃ fault, parseLine dialect line = .error fault) ∨
      ∃ instruction, parseLine dialect line = .ok [instruction] ∧
        ∀ variant ∈ dialect.variants, ∀ reading,
          readAs dialect.registers (.ofCode (code line.toList)) variant = .ok reading →
            reading = instruction := by
  have unambiguous := Dialect.unambiguous_of_mem_builtin listed
  cases parsed : parseLine dialect line with
  | error fault => exact .inl ⟨fault, rfl⟩
  | ok candidates =>
      rcases (parseLine_eq_ok_iff _ _ _).mp parsed with ⟨nonempty, rfl⟩
      rcases List.exists_mem_of_ne_nil _ nonempty with ⟨instruction, member⟩
      have single := unambiguous.accepted_eq_singleton member
      refine .inr ⟨instruction, by rw [single], ?_⟩
      intro variant isVariant reading read
      rcases (readAs_eq_ok_iff _ _ _ _).mp read with ⟨rfl, conveyed, conforms⟩
      have alsoMember := (mem_accepted_iff _ _ _).mpr ⟨isVariant, conveyed, conforms⟩
      rwa [single, List.mem_singleton] at alsoMember

/-- Both forms of a multiplication take the mnemonic and the suffix, and the last operand
decides. -/
theorem parseLine_error_or_single_vmul :
    let product : Instruction :=
      ⟨.registerForm "vmul_scalar" .vmulScalar "vmul" (some .integer) [.vector] [] [.vector, .gpr],
        ["q0", "q1", "r2"], rfl, some "s32", none⟩
    helium ∈ Dialect.builtin ∧ parseLine helium "vmul.s32 q0, q1, r2" = .ok [product] ∧
      ∀ variant ∈ helium.variants, ∀ reading,
        readAs helium.registers (.ofCode (code "vmul.s32 q0, q1, r2".toList)) variant =
          .ok reading → reading = product := by
  intro product
  have listed : helium ∈ Dialect.builtin := by simp [Dialect.builtin]
  have parsed : parseLine helium "vmul.s32 q0, q1, r2" = .ok [product] :=
    (parseLine_eq_ok_iff _ _ _).mpr ⟨by simp, by decide +kernel⟩
  refine ⟨listed, parsed, ?_⟩
  rcases parseLine_error_or_single helium listed "vmul.s32 q0, q1, r2" with
    ⟨fault, failed⟩ | ⟨instruction, found, only⟩
  · cases failed.symm.trans parsed
  · cases found.symm.trans parsed
    exact only

end Assembly

end IssueTiming
