import IssueTiming.Assembly.Line
import IssueTiming.Proofs.Assembly.OperandReading
import IssueTiming.Proofs.Assembly.Statements

/-!
# Reading lines

A statement is read as an instruction when it says what the instruction holds and
the instruction conforms to its variant. The first half does not mention the
variant's slots and the second does not mention the text, so what one variant
reads from a text decides what any other variant can read from it.
-/

namespace IssueTiming

open Text Assembly

/-- A suffix is present exactly when the variant takes one, and is of its kind. -/
def Variant.takesSuffix (variant : Variant) (suffix : Option String) : Bool :=
  match variant.suffixKind, suffix with
  | none, none => true
  | some kind, some suffix => kind.accepts suffix
  | none, some _ | some _, none => false

theorem SuffixKind.plain_of_mem_suffixes {kind : SuffixKind} {suffix : String}
    (member : suffix ∈ kind.suffixes) :
    Plain suffix.toList ∧ lowerCase suffix.toList = suffix.toList := by
  have listed : ∀ suffix ∈ kind.suffixes,
      suffix.toList.all isIdentifierPart = true ∧ lowerCase suffix.toList = suffix.toList := by
    cases kind <;> decide
  rcases listed suffix member with ⟨allParts, lower⟩
  have parts := List.all_eq_true.mp allParts
  have absent : ∀ separator, isIdentifierPart separator = false → separator ∉ suffix.toList :=
    fun separator noPart inside => by simp [parts separator inside] at noPart
  refine ⟨⟨?_, commentFree_of_not_mem (absent '@' rfl) (absent '/' rfl)⟩, lower⟩
  exact fun character inside => isBlank_eq_false_of_isIdentifierPart (parts character inside)

theorem Variant.plain_of_takesSuffix {variant : Variant} {suffix : Option String}
    (takes : variant.takesSuffix suffix = true) :
    ∀ found ∈ suffix, Plain found.toList ∧ lowerCase found.toList = found.toList := by
  intro found same
  rcases same with rfl
  cases expected : variant.suffixKind with
  | none => simp [takesSuffix, expected] at takes
  | some kind =>
      have accepted : found ∈ kind.suffixes := by simpa [takesSuffix, expected] using takes
      exact SuffixKind.plain_of_mem_suffixes accepted

/-- The suffix, the address and the operand names are those the variant asks for. -/
structure Instruction.Conforms (registers : RegisterFile) (instruction : Instruction) : Prop where
  suffix : instruction.variant.takesSuffix instruction.suffix = true
  address : instruction.address.isSome = instruction.variant.memory.isSome
  fits : instruction.fits registers = true

namespace Assembly

/-- The mnemonic, the suffix and the operand text are those of the instruction,
up to the case of letters in the token. -/
structure Statement.Conveys (statement : Statement) (instruction : Instruction) : Prop where
  mnemonic : lowerCase statement.mnemonic = lowerCase instruction.mnemonic.toList
  suffix : statement.suffix.map (fun found => String.ofList (lowerCase found)) = instruction.suffix
  operands : OperandReading statement.operands instruction.operands instruction.address

/-! ## The checks of one variant -/

theorem checkMnemonic_eq_ok_iff (variant : Variant) (found : List Char) :
    checkMnemonic variant found = .ok () ↔ lowerCase found = lowerCase variant.mnemonic.toList := by
  unfold checkMnemonic
  split
  next same => simpa using (sameWord_iff _ _).mp same
  next different => simpa [sameWord_iff] using different

theorem readSuffix_eq_ok_iff (variant : Variant) (found : Option (List Char))
    (suffix : Option String) :
    readSuffix variant.suffixKind found = .ok suffix ↔
      found.map (fun found => String.ofList (lowerCase found)) = suffix ∧
        variant.takesSuffix suffix = true := by
  unfold Variant.takesSuffix
  cases variant.suffixKind with
  | none => cases found <;> cases suffix <;> simp [readSuffix]
  | some kind =>
      cases found with
      | none => cases suffix <;> simp [readSuffix]
      | some found =>
          simp only [readSuffix]
          split
          next accepted => cases suffix <;> grind
          next refused => cases suffix <;> grind

theorem checkClasses_eq_ok_iff (registers : RegisterFile) (slots : List RegisterClass)
    (names : List String) :
    checkClasses registers slots names = .ok () ↔
      ((slots.zip names).all fun (registerClass, name) => registers.contains registerClass name)
        = true := by
  have located : misfit? registers slots names = none ↔
      ∀ pair ∈ slots.zip names, registers.contains pair.1 pair.2 = true := by
    simp only [misfit?, Option.map_eq_none_iff, List.find?_eq_none, Bool.not_eq_true',
      Bool.not_eq_false]
    constructor
    · intro fitting pair member
      rcases List.getElem_of_mem member with ⟨slot, bound, rfl⟩
      exact fitting ((slots.zip names)[slot], slot)
        (List.mk_mem_zipIdx_iff_getElem?.mpr (List.getElem?_eq_getElem bound))
    · intro fitting agreeing
      rcases agreeing with ⟨pair, slot⟩
      intro member
      exact fitting pair (List.fst_mem_of_mem_zipIdx member)
  rw [List.all_eq_true, ← located]
  unfold checkClasses
  cases misfit? registers slots names with
  | none => simp
  | some found => simp

/-- A variant reads what the statement says of an instruction that conforms to it. -/
theorem readAs_eq_ok_iff (registers : RegisterFile) (statement : Statement) (variant : Variant)
    (instruction : Instruction) :
    readAs registers statement variant = .ok instruction ↔
      instruction.variant = variant ∧ statement.Conveys instruction ∧
        instruction.Conforms registers := by
  constructor
  · intro read
    unfold readAs at read
    rcases (bind_eq_ok_iff _ _ _).mp read with ⟨⟨⟩, mnemonic, read⟩
    rcases (bind_eq_ok_iff _ _ _).mp read with ⟨suffix, suffixRead, read⟩
    rcases (bind_eq_ok_iff _ _ _).mp read with ⟨captured, operandsRead, read⟩
    rcases (bind_eq_ok_iff _ _ _).mp read with ⟨⟨⟩, classes, result⟩
    rcases Except.ok.inj result with rfl
    rcases (readSuffix_eq_ok_iff _ _ _).mp suffixRead with ⟨same, takes⟩
    rcases (readOperands_eq_ok_iff _ _ _).mp operandsRead with ⟨reading, addressed⟩
    exact ⟨rfl, ⟨(checkMnemonic_eq_ok_iff _ _).mp mnemonic, same, reading⟩,
      takes, addressed, (checkClasses_eq_ok_iff _ _ _).mp classes⟩
  · intro agreeing
    rcases agreeing with ⟨rfl, ⟨mnemonic, same, reading⟩, takes, addressed, fits⟩
    rcases instruction with ⟨variant, operands, filled, suffix, address⟩
    simp only [readAs, bind_eq_ok_iff]
    exact ⟨(), (checkMnemonic_eq_ok_iff _ _).mpr mnemonic, suffix,
      (readSuffix_eq_ok_iff _ _ _).mpr ⟨same, takes⟩, ⟨operands, filled, address⟩,
      (readOperands_eq_ok_iff _ _ _).mpr ⟨reading, addressed⟩, (),
      (checkClasses_eq_ok_iff _ _ _).mpr fits, rfl⟩

/-! ## All variants of a dialect -/

theorem mem_accepted_iff (dialect : Dialect) (text : List Char) (instruction : Instruction) :
    instruction ∈ accepted (readings dialect text) ↔
      instruction.variant ∈ dialect.variants ∧ (Statement.ofCode text).Conveys instruction ∧
        instruction.Conforms dialect.registers := by
  simp only [accepted, readings, List.mem_filterMap, List.mem_map, Prod.exists, Prod.mk.injEq,
    toOption_eq_some_iff]
  constructor
  · intro found
    rcases found with ⟨_, _, ⟨variant, member, rfl, rfl⟩, read⟩
    rcases (readAs_eq_ok_iff _ _ _ _).mp read with ⟨rfl, conveyed, conforms⟩
    exact ⟨member, conveyed, conforms⟩
  · intro agreeing
    rcases agreeing with ⟨member, conveyed, conforms⟩
    exact ⟨_, _, ⟨instruction.variant, member, rfl, rfl⟩,
      (readAs_eq_ok_iff _ _ _ _).mpr ⟨rfl, conveyed, conforms⟩⟩

theorem parseLine_eq_ok_iff (dialect : Dialect) (line : String) (candidates : List Instruction) :
    parseLine dialect line = .ok candidates ↔
      candidates ≠ [] ∧ accepted (readings dialect (code line.toList)) = candidates := by
  unfold parseLine
  dsimp only
  split
  next empty => simp [empty, eq_comm]
  next found nonempty =>
    constructor
    · intro parsed
      rcases Except.ok.inj parsed with rfl
      exact ⟨nonempty, rfl⟩
    · intro read
      rcases read with ⟨-, rfl⟩
      rfl

theorem parseLine_eq_error_iff (dialect : Dialect) (line : String) (fault : Fault) :
    parseLine dialect line = .error fault ↔
      accepted (readings dialect (code line.toList)) = [] ∧
        fault = .noMatchingVariant dialect.name (stripComment line)
          (rejected (readings dialect (code line.toList))) := by
  unfold parseLine
  dsimp only
  split
  next empty =>
    rw [Except.error.injEq, eq_comm]
    exact (and_iff_right empty).symm
  next nonempty => exact iff_of_false (by simp) fun refused => nonempty refused.1

theorem exists_parseLine_iff (dialect : Dialect) (line : String) (instruction : Instruction) :
    (∃ candidates, parseLine dialect line = .ok candidates ∧ instruction ∈ candidates) ↔
      instruction.variant ∈ dialect.variants ∧
        (Statement.ofCode (code line.toList)).Conveys instruction ∧
        instruction.Conforms dialect.registers := by
  rw [← mem_accepted_iff]
  constructor
  · intro parsedLine
    rcases parsedLine with ⟨candidates, parsed, member⟩
    rcases (parseLine_eq_ok_iff _ _ _).mp parsed with ⟨-, rfl⟩
    exact member
  · intro member
    exact ⟨_, (parseLine_eq_ok_iff _ _ _).mpr ⟨List.ne_nil_of_mem member, rfl⟩, member⟩

/-! ## Two texts that say the same -/

/-- Statements that say one instruction say the same instructions. -/
theorem Statement.Conveys.transfer {statement other : Statement} {shared instruction : Instruction}
    (left : statement.Conveys shared) (right : other.Conveys shared)
    (conveyed : statement.Conveys instruction) : other.Conveys instruction := by
  rcases left.operands.unique conveyed.operands with ⟨operands, address⟩
  refine ⟨?_, ?_, ?_⟩
  · rw [right.mnemonic, ← left.mnemonic, conveyed.mnemonic]
  · rw [right.suffix, ← left.suffix, conveyed.suffix]
  · rw [← operands, ← address]
    exact right.operands

theorem accepted_readings_eq (dialect : Dialect) {text other : List Char} {shared : Instruction}
    (left : (Statement.ofCode text).Conveys shared)
    (right : (Statement.ofCode other).Conveys shared) :
    accepted (readings dialect text) = accepted (readings dialect other) := by
  have readEqual : ∀ variant, (readAs dialect.registers (.ofCode text) variant).toOption =
      (readAs dialect.registers (.ofCode other) variant).toOption := by
    intro variant
    have sameReadings : ∀ instruction,
        readAs dialect.registers (.ofCode text) variant = .ok instruction ↔
          readAs dialect.registers (.ofCode other) variant = .ok instruction := by
      intro instruction
      simp only [readAs_eq_ok_iff]
      exact and_congr_right fun _ => and_congr_left fun _ =>
        ⟨left.transfer right, right.transfer left⟩
    cases read : readAs dialect.registers (.ofCode text) variant with
    | ok instruction => rw [(sameReadings instruction).mp read]
    | error reason =>
        cases otherRead : readAs dialect.registers (.ofCode other) variant with
        | ok instruction => cases read.symm.trans ((sameReadings instruction).mpr otherRead)
        | error otherReason => rfl
  simp only [accepted, readings, List.filterMap_map]
  exact congrArg (List.filterMap · dialect.variants) (funext readEqual)

end Assembly

end IssueTiming
