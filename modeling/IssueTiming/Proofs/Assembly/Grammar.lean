import IssueTiming.Proofs.Assembly.RoundTrip

/-!
# The grammar of a line

`InstructionText` says how the code of a line spells an instruction, without
mention of any reader. A dialect whose mnemonics fit in a token, and whose loads
and stores have an operand before their address, reads exactly the instructions
that a line spells.
-/

namespace IssueTiming

open Text Assembly

/-- A text that spells an instruction: a token of mnemonic and suffix in letters
of either case, and the operands after it. -/
structure InstructionText (registers : RegisterFile) (instruction : Instruction)
    (text : List Char) : Prop where
  parts : ∃ mnemonic suffix gap rest,
    text = mnemonic ++ suffixText suffix ++ gap ++ rest ∧
    lowerCase mnemonic = lowerCase instruction.mnemonic.toList ∧
    suffix.map (fun found => String.ofList (lowerCase found)) = instruction.suffix ∧
    Blank gap ∧ (gap = [] → rest = []) ∧
    OperandText instruction.operands instruction.address rest
  suffix : instruction.variant.takesSuffix instruction.suffix = true
  address : instruction.address.isSome = instruction.variant.memory.isSome
  identifiers : ∀ name ∈ instruction.operands, isIdentifier name.toList = true
  fits : instruction.fits registers = true

/-- What the grammar asks of a variant: its mnemonic is one word without points,
and an operand stands before its address. -/
structure Variant.Regular (variant : Variant) : Prop where
  blankless : Blankless variant.mnemonic.toList
  noPoint : '.' ∉ variant.mnemonic.toList
  leads : variant.memory.isSome = true → 2 ≤ variant.operandCount

variable {registers : RegisterFile} {instruction : Instruction} {text : List Char}

/-- What a variant reads is spelled by the text. -/
theorem instructionText_of_conveys (regular : instruction.variant.Regular) (trimmed : Trimmed text)
    (conveyed : (Statement.ofCode text).Conveys instruction)
    (conforms : instruction.Conforms registers) : InstructionText registers instruction text := by
  rcases ((Statement.ofCode_eq_iff text _).mp rfl).tight trimmed with ⟨gap, blank, ended, equal⟩
  have leads : instruction.address.isSome = true → 2 ≤ instruction.operands.length := by
    rw [conforms.address, instruction.operands_length]
    exact regular.leads
  exact ⟨⟨_, _, gap, _, equal, conveyed.mnemonic, conveyed.suffix, blank, ended,
    conveyed.operands.written leads⟩, conforms.suffix, conforms.address,
    conveyed.operands.identifiers, conforms.fits⟩

/-- The token of a text that spells an instruction has no blanks. -/
theorem blankless_token {mnemonic : List Char} {suffix : Option (List Char)}
    (regular : instruction.variant.Regular)
    (sameMnemonic : lowerCase mnemonic = lowerCase instruction.mnemonic.toList)
    (sameSuffix : suffix.map (fun found => String.ofList (lowerCase found)) = instruction.suffix)
    (takes : instruction.variant.takesSuffix instruction.suffix = true) :
    Blankless (mnemonic ++ suffixText suffix) := by
  have first : Blankless mnemonic := by
    rw [← blankless_lowerCase_iff, sameMnemonic, blankless_lowerCase_iff]
    exact regular.blankless
  have second : Blankless (suffixText suffix) := by
    cases suffix with
    | none => simp [suffixText, Blankless]
    | some suffix =>
        have plain := (Variant.plain_of_takesSuffix takes _ sameSuffix.symm).1.blankless
        rw [String.toList_ofList, blankless_lowerCase_iff] at plain
        have point : isBlank '.' = false := by decide
        exact List.forall_mem_cons.mpr ⟨point, plain⟩
  exact List.forall_mem_append.mpr ⟨first, second⟩

/-- What a text spells is read. -/
theorem InstructionText.conveys (regular : instruction.variant.Regular) (trimmed : Trimmed text)
    (spelled : InstructionText registers instruction text) :
    (Statement.ofCode text).Conveys instruction := by
  rcases spelled.parts with
    ⟨mnemonic, suffix, gap, rest, equal, sameMnemonic, sameSuffix, blank, ended, operands⟩
  have noPoint : '.' ∉ mnemonic := by
    have point : '.'.isAlpha = false := by decide
    rw [← mem_lowerCase_iff point, sameMnemonic, mem_lowerCase_iff point]
    exact regular.noPoint
  have written : Statement.WrittenAs ⟨mnemonic, suffix, trim rest⟩ text :=
    ⟨blankless_token regular sameMnemonic sameSuffix spelled.suffix, noPoint, gap, rest, blank,
      ended, rfl, equal⟩
  rw [(Statement.ofCode_eq_iff _ _).mpr written]
  rw [equal] at trimmed
  rcases trimmed.exists_eq_append_trim with ⟨left, leftBlank, padded⟩
  have reading := operands.reading spelled.identifiers
  rw [padded] at reading
  exact ⟨sameMnemonic, sameSuffix, reading.of_append_left leftBlank⟩

/-- A line has an instruction among its candidates exactly when the instruction's
variant is one of the dialect and the code of the line spells the instruction. -/
theorem mem_candidates_iff_instructionText (dialect : Dialect)
    (regular : ∀ variant ∈ dialect.variants, variant.Regular) (line : String)
    (instruction : Instruction) :
    (∃ candidates, parseLine dialect line = .ok candidates ∧ instruction ∈ candidates) ↔
      instruction.variant ∈ dialect.variants ∧
        InstructionText dialect.registers instruction (code line.toList) := by
  rw [exists_parseLine_iff]
  have trimmed := trimmed_code line.toList
  constructor
  · intro read
    rcases read with ⟨listed, conveyed, conforms⟩
    exact ⟨listed, instructionText_of_conveys (regular _ listed) trimmed conveyed conforms⟩
  · intro written
    rcases written with ⟨listed, spelled⟩
    exact ⟨listed, spelled.conveys (regular _ listed) trimmed,
      spelled.suffix, spelled.address, spelled.fits⟩

theorem mem_candidates_iff_instructionText_add :
    let sum : Instruction :=
      ⟨.registerForm "add" .add "add" none [.gpr] [] [.gpr, .gpr], ["r1", "r2", "r3"], rfl, none,
        none⟩
    (∀ variant ∈ helium.variants, variant.Regular) ∧
      parseLine helium "Add\tr1 ,r2, r3 @ sum" = .ok [sum] ∧
      InstructionText helium.registers sum "Add\tr1 ,r2, r3".toList := by
  intro sum
  have regular : ∀ variant ∈ helium.variants,
      Blankless variant.mnemonic.toList ∧ '.' ∉ variant.mnemonic.toList ∧
        (variant.memory.isSome = true → 2 ≤ variant.operandCount) := by
    decide
  have regularVariants : ∀ variant ∈ helium.variants, variant.Regular := fun variant listed =>
    ⟨(regular variant listed).1, (regular variant listed).2.1, (regular variant listed).2.2⟩
  have parsed : parseLine helium "Add\tr1 ,r2, r3 @ sum" = .ok [sum] :=
    (parseLine_eq_ok_iff _ _ _).mpr ⟨by simp, by decide +kernel⟩
  have spelled := (mem_candidates_iff_instructionText helium regularVariants
    "Add\tr1 ,r2, r3 @ sum" sum).mp ⟨[sum], parsed, by simp⟩
  exact ⟨regularVariants, parsed, spelled.2⟩

end IssueTiming
