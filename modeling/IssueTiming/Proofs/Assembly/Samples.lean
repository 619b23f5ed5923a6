import IssueTiming.Assembly.Sample
import IssueTiming.Isa.Catalogue
import IssueTiming.Proofs.Assembly.Rendering

/-!
# Sample lines are read back

A sample line is the text of an instruction of its variant, with the register names of the
line for operands. That instruction fits the variant and is legible, so it is a candidate for
the line.
-/

namespace IssueTiming

open Text Assembly

/-- The suffixes that a variant takes, in the order of its sample lines. A variant without
suffixes takes their absence. -/
def Variant.acceptedSuffixes (variant : Variant) : List (Option String) :=
  match variant.suffixKind with
  | none => [none]
  | some kind => kind.suffixes.map some

theorem SuffixKind.nodup_suffixes (kind : SuffixKind) : kind.suffixes.Nodup := by
  cases kind <;> decide

namespace Variant

variable {registers : RegisterFile} {variant : Variant}

theorem mem_acceptedSuffixes_iff (variant : Variant) (suffix : Option String) :
    suffix ∈ variant.acceptedSuffixes ↔ variant.takesSuffix suffix = true := by
  unfold acceptedSuffixes takesSuffix
  cases variant.suffixKind with
  | none => cases suffix <;> simp
  | some kind => cases suffix <;> simp

theorem nodup_acceptedSuffixes (variant : Variant) : variant.acceptedSuffixes.Nodup := by
  unfold acceptedSuffixes
  cases variant.suffixKind with
  | none => simp
  | some kind => exact kind.nodup_suffixes.map (Option.some_injective String)

/-- A variant whose mnemonic can be written in a line and whose slots can be filled with
register names. -/
structure Samplable (registers : RegisterFile) (variant : Variant) : Prop where
  named : variant.mnemonic ≠ ""
  plain : Plain variant.mnemonic.toList
  noPoint : '.' ∉ variant.mnemonic.toList
  populated : ∀ registerClass ∈ variant.slots, registers.names registerClass ≠ []
  identifiers : ∀ registerClass ∈ variant.slots, ∀ name ∈ registers.names registerClass,
    isIdentifier name.toList = true
  /-- A memory variant has a slot for the base of its address. -/
  based : variant.memory.isSome = true → variant.slots ≠ []

/-- The register names of the sample lines, one for each slot. -/
def sampleNames (registers : RegisterFile) (variant : Variant) : List String :=
  variant.slots.zipIdx.map fun (registerClass, slot) => sampleName registers registerClass slot

theorem sampleName_mem {registerClass : RegisterClass}
    (populated : registers.names registerClass ≠ []) (slot : Nat) :
    sampleName registers registerClass slot ∈ registers.names registerClass := by
  have inside : slot % (registers.names registerClass).length <
      (registers.names registerClass).length :=
    Nat.mod_lt _ (List.length_pos_of_ne_nil populated)
  rw [sampleName, List.getD_eq_getElem _ _ inside]
  exact List.getElem_mem inside

theorem length_sampleNames (registers : RegisterFile) (variant : Variant) :
    (variant.sampleNames registers).length = variant.operandCount := by
  simp [sampleNames, operandCount]

/-- Every slot is filled with a name of its class. -/
theorem Samplable.fits (samplable : variant.Samplable registers) :
    ∀ pair ∈ variant.slots.zip (variant.sampleNames registers),
      pair.1 ∈ variant.slots ∧ pair.2 ∈ registers.names pair.1 := by
  intro pair member
  rcases List.mem_iff_getElem?.mp member with ⟨slot, found⟩
  rcases List.getElem?_zip_eq_some.mp found with ⟨isClass, isName⟩
  have listed := List.mem_of_getElem? isClass
  refine ⟨listed, ?_⟩
  have filled : sampleName registers pair.1 slot = pair.2 := by
    simpa [sampleNames, isClass] using isName
  rw [← filled]
  exact sampleName_mem (samplable.populated _ listed) slot

theorem Samplable.identifier_of_mem_sampleNames (samplable : variant.Samplable registers) :
    ∀ name ∈ variant.sampleNames registers, isIdentifier name.toList = true := by
  intro name member
  rcases List.mem_map.mp member with ⟨⟨registerClass, slot⟩, indexed, rfl⟩
  have listed := List.fst_mem_of_mem_zipIdx indexed
  exact samplable.identifiers _ listed _ (sampleName_mem (samplable.populated _ listed) slot)

/-! ## The instruction behind a sample line -/

/-- The instruction that a sample line is the text of. A memory access has its last operand
for an address, with no offset. -/
def sample (registers : RegisterFile) (variant : Variant) (suffix : Option String) :
    Instruction where
  variant := variant
  operands := variant.sampleNames registers
  operands_length := variant.length_sampleNames registers
  suffix := suffix
  address := variant.memory.bind fun _ =>
    (variant.sampleNames registers).getLast?.map fun base => ⟨base, none, none, false⟩

theorem sampleOperands_eq (registers : RegisterFile) (variant : Variant) :
    sampleOperands registers variant =
      match variant.memory, (variant.sampleNames registers).getLast? with
      | some _, some base => (variant.sampleNames registers).dropLast ++ ["[" ++ base ++ "]"]
      | _, _ => variant.sampleNames registers :=
  rfl

theorem operandTexts_sample (registers : RegisterFile) (variant : Variant)
    (suffix : Option String) :
    (variant.sample registers suffix).operandTexts = sampleOperands registers variant := by
  rw [sampleOperands_eq, Instruction.operandTexts, sample]
  cases variant.memory with
  | none => rfl
  | some access =>
      cases (variant.sampleNames registers).getLast? with
      | none => rfl
      | some base => simp [Address.render, Address.renderOffset]

theorem render_sample (registers : RegisterFile) (variant : Variant) (suffix : Option String) :
    (variant.sample registers suffix).render = sampleLine registers variant suffix := by
  rw [Instruction.render, operandTexts_sample]
  rfl

theorem Samplable.wellFormed_sample (samplable : variant.Samplable registers)
    (suffix : Option String) :
    WellFormedOperands (variant.sample registers suffix).operands
      (variant.sample registers suffix).address := by
  refine ⟨samplable.identifier_of_mem_sampleNames, ?_⟩
  intro address found
  rcases Option.bind_eq_some_iff.mp found with ⟨access, -, atBase⟩
  rcases Option.map_eq_some_iff.mp atBase with ⟨base, last, rfl⟩
  exact ⟨⟨by simp [Address.offsets], by simp, by simp⟩, last⟩

theorem Samplable.conforms_sample (samplable : variant.Samplable registers)
    {suffix : Option String} (takes : variant.takesSuffix suffix = true) :
    (variant.sample registers suffix).Conforms registers := by
  refine ⟨takes, ?_, ?_⟩
  · rw [sample]
    cases memory : variant.memory with
    | none => rfl
    | some access =>
        have filled : variant.sampleNames registers ≠ [] := by
          simpa [sampleNames] using samplable.based (by simp [memory])
        simp [List.getLast?_eq_some_getLast filled]
  · rw [Instruction.fits, List.all_eq_true]
    intro pair member
    exact (RegisterFile.contains_eq_true_iff _ _ _).mpr (samplable.fits pair member).2

theorem Samplable.legible_sample (samplable : variant.Samplable registers)
    {suffix : Option String} (takes : variant.takesSuffix suffix = true) :
    (variant.sample registers suffix).Legible where
  mnemonic := samplable.plain
  noPoint := samplable.noPoint
  suffix := plain_of_takesSuffix takes
  operands := samplable.wellFormed_sample suffix
  token := fun unnamed => absurd unnamed samplable.named

/-- A sample line has the instruction behind it among its candidates. -/
theorem Samplable.exists_parseLine_sampleLine {dialect : Dialect}
    (samplable : variant.Samplable dialect.registers) (listed : variant ∈ dialect.variants)
    {suffix : Option String} (takes : variant.takesSuffix suffix = true) :
    ∃ candidates, parseLine dialect (sampleLine dialect.registers variant suffix) = .ok candidates ∧
      variant.sample dialect.registers suffix ∈ candidates := by
  rw [← render_sample, exists_parseLine_iff]
  exact ⟨listed, (samplable.legible_sample takes).conveys, samplable.conforms_sample takes⟩

/-! ## All sample lines of a variant -/

theorem sampleLine_injective (registers : RegisterFile) (variant : Variant) :
    Function.Injective (sampleLine registers variant) := by
  intro suffix other same
  have texts := congrArg String.toList same
  simp only [← render_sample, Instruction.toList_render, Instruction.operandText,
    operandTexts_sample] at texts
  have tokens := List.append_cancel_right (List.append_cancel_right texts)
  have marks : suffixText (suffix.map String.toList) = suffixText (other.map String.toList) :=
    List.append_cancel_left tokens
  exact Option.map_injective (fun _ _ => String.toList_inj.mp) (suffixText_injective marks)

theorem sampleLines_eq (dialect : Dialect) (variant : Variant) :
    sampleLines dialect variant =
      variant.acceptedSuffixes.map (sampleLine dialect.registers variant) := by
  rw [sampleLines, acceptedSuffixes]
  cases variant.suffixKind with
  | none => rfl
  | some kind => rw [List.map_map]; rfl

theorem head?_sampleLines (dialect : Dialect) (variant : Variant) :
    (sampleLines dialect variant).head? = some (canonicalLine dialect variant) := by
  rw [sampleLines, canonicalLine]
  cases variant.suffixKind with
  | none => rfl
  | some kind =>
      rcases List.exists_cons_of_ne_nil kind.suffixes_ne_nil with ⟨first, rest, listed⟩
      simp [listed]

/-- There is one sample line for every suffix a variant takes, all different and the canonical
line first. Each is read back as the variant, with the suffix it is a sample for, and the
candidate is written as the line is. -/
theorem sampleLines_read_back (dialect : Dialect) (variant : Variant)
    (listed : variant ∈ dialect.variants) (samplable : variant.Samplable dialect.registers) :
    (∀ suffix, suffix ∈ variant.acceptedSuffixes ↔ variant.takesSuffix suffix = true) ∧
    variant.acceptedSuffixes.Nodup ∧
    List.Forall₂ (fun suffix line =>
        ∃ candidates candidate, parseLine dialect line = .ok candidates ∧ candidate ∈ candidates ∧
          candidate.variant = variant ∧ candidate.render = line ∧ candidate.suffix = suffix)
      variant.acceptedSuffixes (sampleLines dialect variant) ∧
    (sampleLines dialect variant).Nodup ∧
    (sampleLines dialect variant).head? = some (canonicalLine dialect variant) := by
  refine ⟨variant.mem_acceptedSuffixes_iff, variant.nodup_acceptedSuffixes, ?_, ?_,
    head?_sampleLines dialect variant⟩
  · rw [sampleLines_eq, List.forall₂_map_right_iff, List.forall₂_same]
    intro suffix accepted
    have takes := (variant.mem_acceptedSuffixes_iff suffix).mp accepted
    rcases samplable.exists_parseLine_sampleLine listed takes with ⟨candidates, read, member⟩
    exact ⟨candidates, _, read, member, rfl, render_sample _ _ _, rfl⟩
  · rw [sampleLines_eq]
    exact variant.nodup_acceptedSuffixes.map (sampleLine_injective dialect.registers variant)

/-! ## The built-in dialects -/

theorem samplable_of_isIdentifier (mnemonic : isIdentifier variant.mnemonic.toList = true)
    (slots : ∀ registerClass ∈ variant.slots, registers.names registerClass ≠ [] ∧
      ∀ name ∈ registers.names registerClass, isIdentifier name.toList = true)
    (based : variant.memory.isSome = true → variant.slots ≠ []) :
    variant.Samplable registers where
  named := by
    intro unnamed
    simp [unnamed, isIdentifier] at mnemonic
  plain := ⟨blankless_of_isIdentifier mnemonic, commentFree_of_isIdentifier mnemonic⟩
  noPoint := not_mem_of_isIdentifier mnemonic rfl
  populated := fun registerClass member => (slots registerClass member).1
  identifiers := fun registerClass member => (slots registerClass member).2
  based := based

theorem samplable_of_mem_builtin :
    ∀ dialect ∈ Dialect.builtin, ∀ variant ∈ dialect.variants, variant.Samplable dialect.registers := by
  have checked : ∀ dialect ∈ Dialect.builtin,
      (∀ registerClass ∈ RegisterClass.all, dialect.registers.names registerClass ≠ [] ∧
        ∀ name ∈ dialect.registers.names registerClass, isIdentifier name.toList = true) ∧
      ∀ variant ∈ dialect.variants, isIdentifier variant.mnemonic.toList = true ∧
        (variant.memory.isSome = true → variant.slots ≠ []) := by
    decide +kernel
  intro dialect isBuiltin variant listed
  rcases checked dialect isBuiltin with ⟨registers, variants⟩
  rcases variants variant listed with ⟨mnemonic, based⟩
  exact samplable_of_isIdentifier mnemonic
    (fun registerClass _ => registers registerClass (RegisterClass.mem_all registerClass)) based

/-- The base of the access is the second register, so its name is the second of its class. -/
theorem sampleLines_read_back_vldrw :
    let load : Variant := .memoryForm "vldrw" .vldrw "vldrw" (some .word) .load [.vector] [.gpr]
    sampleLines helium load =
        ["vldrw.u32 q0, [r1]", "vldrw.s32 q0, [r1]", "vldrw.f32 q0, [r1]"] ∧
      ∃ candidates candidate, parseLine helium "vldrw.s32 q0, [r1]" = .ok candidates ∧
        candidate ∈ candidates ∧ candidate.variant = load ∧
        candidate.render = "vldrw.s32 q0, [r1]" ∧ candidate.suffix = some "s32" := by
  intro load
  have listed : load ∈ helium.variants := by decide
  have lines : sampleLines helium load =
      ["vldrw.u32 q0, [r1]", "vldrw.s32 q0, [r1]", "vldrw.f32 q0, [r1]"] := by decide +kernel
  have samplable := samplable_of_mem_builtin helium (by simp [Dialect.builtin]) load listed
  rcases sampleLines_read_back helium load listed samplable with ⟨-, -, readBack, -⟩
  rw [lines] at readBack
  rcases readBack with _ | ⟨-, _ | ⟨second, -⟩⟩
  exact ⟨lines, second⟩

end Variant

end IssueTiming
