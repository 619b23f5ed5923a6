import IssueTiming.Proofs.Assembly.LineReading

/-!
# The text of an instruction

An instruction is legible when nothing in it can be mistaken for a part of its
text that it is not. The text of a legible instruction is divided into the
instruction's own statement again, and this statement conveys the instruction.
Conversely, what the code of a line conveys is legible.
-/

namespace IssueTiming

open Text Assembly

/-- An instruction whose text can be read back. -/
structure Instruction.Legible (instruction : Instruction) : Prop where
  mnemonic : Plain instruction.mnemonic.toList
  noPoint : '.' ∉ instruction.mnemonic.toList
  suffix : ∀ suffix ∈ instruction.suffix,
    Plain suffix.toList ∧ lowerCase suffix.toList = suffix.toList
  operands : WellFormedOperands instruction.operands instruction.address
  /-- Operands do not stand at the beginning of the text. -/
  token : instruction.mnemonic = "" → instruction.suffix = none → instruction.operands = []

/-! ## Addresses -/

namespace Address

/-- What is rendered between the brackets. -/
def insideText (address : Address) : List Char :=
  address.base.toList ++ (renderOffset address.preIndex).toList

/-- What is rendered after the brackets. -/
def afterText (address : Address) : List Char :=
  (if address.writeback then ['!'] else []) ++ (renderOffset address.postIndex).toList

theorem toList_render (address : Address) :
    address.render.toList = '[' :: address.insideText ++ ']' :: address.afterText := by
  unfold render insideText afterText
  split <;> simp

theorem offsetText_render {offset : String} (solid : Solid offset.toList) :
    OffsetText offset (' ' :: '#' :: offset.toList) :=
  ⟨by simpa using solid.nonempty, solid.trimmed, [' '], offset.toList, by decide,
    Padded.refl _, rfl⟩

theorem insideText_render {address : Address} (wellFormed : address.WellFormed) :
    InsideText address.base.toList address.preIndex address.insideText := by
  unfold insideText
  cases index : address.preIndex with
  | none => simpa [renderOffset] using InsideText.bare (Padded.refl address.base.toList)
  | some offset =>
      have solid := wellFormed.offsets offset (by simp [Address.offsets, index])
      simpa [renderOffset] using
        InsideText.offset (Padded.refl address.base.toList) (offsetText_render solid)

theorem afterText_render {address : Address} (wellFormed : address.WellFormed) :
    AfterText address.writeback address.postIndex address.afterText := by
  unfold afterText
  cases mark : address.writeback with
  | true =>
      have written := AfterText.writeback (Padded.refl ['!'])
      simpa [wellFormed.single mark, renderOffset] using written
  | false =>
      cases increment : address.postIndex with
      | none => simpa [renderOffset] using AfterText.nothing blank_nil
      | some offset =>
          have solid := wellFormed.offsets offset (by simp [Address.offsets, increment])
          simpa [renderOffset] using AfterText.increment blank_nil (offsetText_render solid)

/-- A solid text stays solid when an offset is rendered after it. -/
theorem solid_append_renderOffset {left : List Char} (leftSolid : Solid left)
    {found : Option String} (solid : ∀ offset ∈ found, Solid offset.toList) :
    Solid (left ++ (renderOffset found).toList) := by
  cases found with
  | none => simpa [renderOffset] using leftSolid
  | some offset =>
      have joined := leftSolid.join (solid offset rfl) (show Parting [',', ' ', '#'] by decide)
      simpa [renderOffset] using joined

theorem solid_render {address : Address} (wellFormed : address.WellFormed)
    (base : isIdentifier address.base.toList = true) : Solid address.render.toList := by
  have inside : Solid address.insideText :=
    solid_append_renderOffset (solid_of_isIdentifier base) fun offset found =>
      wellFormed.offsets offset (List.mem_append_left _ (by simpa using found))
  have opening : Solid ['['] := solid_singleton (by decide) (by decide)
  have closing : Solid [']'] := solid_singleton (by decide) (by decide)
  have mark : Solid ['!'] := solid_singleton (by decide) (by decide)
  have bracketed := (opening.append inside (.inl (by simp))).append closing (.inr (by simp))
  have marked : Solid
      (['['] ++ address.insideText ++ [']'] ++ if address.writeback then ['!'] else []) := by
    split
    · exact bracketed.append mark (.inr (by simp))
    · simpa using bracketed
  have whole := solid_append_renderOffset marked fun offset found =>
    wellFormed.offsets offset (List.mem_append_right _ (by simpa using found))
  simpa [toList_render, afterText] using whole

end Address

/-! ## Operands -/

namespace Instruction

/-- The operands as they stand in the text of an instruction. -/
def operandText (instruction : Instruction) : List Char :=
  List.intercalate [',', ' '] (instruction.operandTexts.map String.toList)

/-- The statement that the text of an instruction writes. -/
def statement (instruction : Instruction) : Statement :=
  ⟨instruction.mnemonic.toList, instruction.suffix.map String.toList, instruction.operandText⟩

variable {instruction : Instruction}

theorem operandText_written
    (wellFormed : WellFormedOperands instruction.operands instruction.address) :
    OperandText instruction.operands instruction.address instruction.operandText := by
  unfold operandText operandTexts
  cases found : instruction.address with
  | none => exact .plain (separated_intercalate ',' _)
  | some address =>
      rcases wellFormed.address address found with ⟨addressWellFormed, last⟩
      rcases exists_followed_intercalate ','
        (instruction.operands.dropLast.map String.toList) address.render.toList with
        ⟨before, followed, joined⟩
      have written := OperandText.memory followed (address.insideText_render addressWellFormed)
        addressWellFormed.preIndex (address.afterText_render addressWellFormed)
      rw [List.dropLast_append_getLast? _ last] at written
      dsimp only
      rw [List.map_append, List.map_singleton, joined, address.toList_render]
      simpa using written

theorem solid_of_mem_operandTexts
    (wellFormed : WellFormedOperands instruction.operands instruction.address) :
    ∀ text ∈ instruction.operandTexts, Solid text.toList := by
  intro text member
  unfold operandTexts at member
  cases found : instruction.address with
  | none =>
      rw [found] at member
      exact solid_of_isIdentifier (wellFormed.identifiers text member)
  | some address =>
      rcases wellFormed.address address found with ⟨addressWellFormed, last⟩
      simp only [found, List.mem_append, List.mem_singleton] at member
      rcases member with leading | rfl
      · exact solid_of_isIdentifier
          (wellFormed.identifiers text (List.mem_of_mem_dropLast leading))
      · exact address.solid_render addressWellFormed
          (wellFormed.identifiers _ (List.mem_of_getLast? last))

theorem operandTexts_eq_nil_iff
    (wellFormed : WellFormedOperands instruction.operands instruction.address) :
    instruction.operandTexts = [] ↔ instruction.operands = [] := by
  unfold operandTexts
  cases found : instruction.address with
  | none => rfl
  | some address =>
      rcases wellFormed.address address found with ⟨-, last⟩
      apply iff_of_false (by simp)
      intro empty
      simp [empty] at last

theorem solid_operandText
    (wellFormed : WellFormedOperands instruction.operands instruction.address)
    (nonempty : instruction.operandTexts ≠ []) : Solid instruction.operandText := by
  apply solid_intercalate (by decide) (by simpa using nonempty)
  simpa using solid_of_mem_operandTexts wellFormed

/-! ## The whole text -/

theorem toList_render (instruction : Instruction) :
    instruction.render.toList = instruction.statement.token
      ++ (if instruction.operandTexts = [] then [] else [' ']) ++ instruction.operandText := by
  unfold render statement Statement.token operandText
  cases instruction.suffix with
  | none => cases instruction.operandTexts <;> simp [suffixText]
  | some suffix => cases instruction.operandTexts <;> simp [suffixText]

theorem Legible.token_plain (legible : instruction.Legible) :
    Plain instruction.statement.token := by
  rcases legible.mnemonic with ⟨blankless, free⟩
  unfold Statement.token statement
  cases found : instruction.suffix with
  | none => simpa [suffixText] using legible.mnemonic
  | some suffix =>
      rcases (legible.suffix suffix found).1 with ⟨suffixBlankless, suffixFree⟩
      have point : isBlank '.' = false := rfl
      refine ⟨?_, ?_⟩
      · simpa [suffixText, Blankless, or_imp, forall_and, point] using
          And.intro blankless suffixBlankless
      · simpa [suffixText] using
          free.join suffixFree (show Parting ['.'] by decide)

theorem Legible.render_eq_nil (legible : instruction.Legible)
    (empty : instruction.statement.token = []) : instruction.render.toList = [] := by
  rcases List.append_eq_nil_iff.mp empty with ⟨noMnemonic, noSuffix⟩
  have unsuffixed : instruction.suffix = none := by
    cases found : instruction.suffix with
    | none => rfl
    | some suffix => simp [statement, suffixText, found] at noSuffix
  have noTexts := (operandTexts_eq_nil_iff legible.operands).mpr
    (legible.token (by simpa [statement] using noMnemonic) unsuffixed)
  simp [toList_render, empty, operandText, noTexts]

theorem Legible.solid_render (legible : instruction.Legible)
    (nonempty : instruction.statement.token ≠ []) : Solid instruction.render.toList := by
  have token : Solid instruction.statement.token :=
    ⟨nonempty, legible.token_plain.blankless.trimmed, legible.token_plain.commentFree⟩
  rw [toList_render]
  by_cases bare : instruction.operandTexts = []
  · simpa [bare, operandText] using token
  · rw [if_neg bare]
    exact token.join (solid_operandText legible.operands bare) (by decide)

/-- The text of a legible instruction is all code. -/
theorem Legible.code_render (legible : instruction.Legible) :
    code instruction.render.toList = instruction.render.toList := by
  by_cases empty : instruction.statement.token = []
  · rw [legible.render_eq_nil empty]
    decide
  · exact (legible.solid_render empty).commentFree.code_eq (legible.solid_render empty).trimmed

theorem Legible.splitToken_render (legible : instruction.Legible) :
    (Statement.splitToken (code instruction.render.toList)).1 = instruction.statement.token := by
  rw [legible.code_render, toList_render, Statement.splitToken_append legible.token_plain.blankless]
  · split <;> decide
  · by_cases bare : instruction.operandTexts = [] <;> simp [bare, operandText]

theorem Legible.ofCode_render (legible : instruction.Legible) :
    Statement.ofCode instruction.render.toList = instruction.statement := by
  rw [Statement.ofCode_eq_iff]
  refine ⟨legible.token_plain.blankless, legible.noPoint, _, _, ?_, ?_, ?_, toList_render _⟩
  · split <;> decide
  · by_cases bare : instruction.operandTexts = [] <;> simp [bare, operandText]
  · by_cases bare : instruction.operandTexts = []
    · have empty : instruction.operandText = [] := by simp [operandText, bare]
      simp [statement, empty]
    · exact (solid_operandText legible.operands bare).trimmed.trim_eq

/-- The text of a legible instruction conveys the instruction. -/
theorem Legible.conveys (legible : instruction.Legible) :
    (Statement.ofCode (code instruction.render.toList)).Conveys instruction := by
  rw [legible.code_render, legible.ofCode_render]
  refine ⟨rfl, ?_, (operandText_written legible.operands).reading legible.operands.identifiers⟩
  cases found : instruction.suffix with
  | none => simp [statement, found]
  | some suffix => simp [statement, found, (legible.suffix suffix found).2]

end Instruction

end IssueTiming
