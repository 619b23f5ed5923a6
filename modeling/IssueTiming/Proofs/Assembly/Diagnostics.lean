import IssueTiming.Isa.Helium
import IssueTiming.Proofs.Assembly.LineReading
import IssueTiming.Proofs.Assembly.Mismatches

/-!
# Diagnostics

A line that no variant reads is answered with one reason per variant. The reason shows the
first stage in which the variant fails. Whether it fails for the classes of its registers
alone shows in a second reading, with a register file that has the operands of the line in
every class.
-/

namespace IssueTiming

/-- The register file with more names in every class. -/
def RegisterFile.extend (registers : RegisterFile) (added : List String) : RegisterFile where
  gpr := registers.gpr ++ added
  vector := registers.vector ++ added
  vectorStack := registers.vectorStack ++ added
  gprStack := registers.gprStack ++ added

@[simp] theorem RegisterFile.mem_names_extend_iff (registers : RegisterFile) (added : List String)
    (registerClass : RegisterClass) (name : String) :
    name ∈ (registers.extend added).names registerClass ↔
      name ∈ registers.names registerClass ∨ name ∈ added := by
  cases registerClass <;> exact List.mem_append

namespace Assembly

open Text

/-! ## The operands of a line -/

/-- The characters that stand between operands and around an address. -/
def isOperandMark (character : Char) : Bool :=
  character == ',' || character == '[' || character == ']'

/-- What stands between the commas and brackets of an operand text. -/
def operandWords (text : List Char) : List String :=
  (text.splitOnP isOperandMark).map fun word => String.ofList (trim word)

example : operandWords "v3, [x0 ], #8".toList = ["v3", "", "x0", "", "#8"] := by decide

theorem operandWords_append {mark : Char} (marked : isOperandMark mark = true)
    (left right : List Char) :
    operandWords (left ++ mark :: right) = operandWords left ++ operandWords right := by
  rw [operandWords, List.splitOnP_append_cons _ _ marked, List.map_append, operandWords, operandWords]

theorem operandWords_of_padded {word text : List Char} (padded : Padded word text)
    (identifier : isIdentifier word = true) : operandWords text = [String.ofList word] := by
  have unmarked : ∀ character ∈ text, isOperandMark character = false := by
    intro character member
    rw [← Bool.not_eq_true]
    intro marked
    simp only [isOperandMark, Bool.or_eq_true, beq_iff_eq] at marked
    rcases marked with (rfl | rfl) | rfl
    all_goals exact padded.not_mem (by decide) (not_mem_of_isIdentifier identifier (by decide)) member
  rw [operandWords, List.splitOnP_eq_singleton unmarked, List.map_singleton,
    padded.trim_eq (blankless_of_isIdentifier identifier).trimmed]

theorem mem_operandWords_of_separated {words : List (List Char)} {text : List Char}
    (separated : Separated ',' words text)
    (identifiers : ∀ word ∈ words, isIdentifier word = true) :
    ∀ word ∈ words, String.ofList word ∈ operandWords text := by
  induction separated with
  | none blank => simp
  | last padded => simp_all [operandWords_of_padded padded]
  | more padded rest induction =>
      rcases List.forall_mem_cons.mp identifiers with ⟨first, others⟩
      rw [operandWords_append (by decide), operandWords_of_padded padded first]
      refine List.forall_mem_cons.mpr ⟨by simp, fun word member => ?_⟩
      exact List.mem_append_right _ (induction others word member)

theorem InsideText.mem_operandWords {base inside : List Char} {preIndex : Option String}
    (written : InsideText base preIndex inside) (identifier : isIdentifier base = true) :
    String.ofList base ∈ operandWords inside := by
  cases written with
  | bare padded => simp [operandWords_of_padded padded identifier]
  | offset padded immediate =>
      rw [operandWords_append (by decide), operandWords_of_padded padded identifier]
      simp

/-- Whatever a text is read as, its operands stand between commas and brackets. -/
theorem OperandReading.mem_operandWords {text : List Char} {names : List String}
    {address : Option Address} (reading : OperandReading text names address) :
    ∀ name ∈ names, name ∈ operandWords text := by
  cases reading with
  | plain identifiers =>
      simpa using mem_operandWords_of_separated (separated_operandTokens text) identifiers
  | @memory parts tokens base preIndex postIndex writeback split leading insideRead afterRead
      identifiers =>
      rcases (splitBrackets_eq_ok_iff _ _).mp split with ⟨-, -, rfl⟩
      rcases (readInside_eq_ok_iff _ _ _).mp insideRead with ⟨identifier, insideText⟩
      have inBrackets := insideText.mem_operandWords identifier
      have before : ∀ token ∈ tokens, String.ofList token ∈ operandWords parts.before := by
        intro token member
        have nonempty := List.ne_nil_of_mem member
        rcases (followed_iff nonempty _).mp (followed_of_leadingTokens nonempty leading) with
          ⟨body, right, separated, -, equal⟩
        rw [equal, operandWords_append (by decide)]
        exact List.mem_append_left _ (mem_operandWords_of_separated separated identifiers token member)
      rw [operandWords_append (by decide), operandWords_append (by decide)]
      intro name member
      simp only [List.map_append, List.mem_append, List.map_singleton, List.mem_map,
        List.mem_singleton] at member
      rcases member with ⟨token, isToken, rfl⟩ | rfl
      · simp [before token isToken]
      · simp [inBrackets]

/-! ## Two register files -/

/-- The names of a register file and, in every class, the operands of the line. -/
def Statement.widened (statement : Statement) (registers : RegisterFile) : RegisterFile :=
  registers.extend (operandWords statement.operands)

/-- Whatever names an operand text has, they fit every slot of the wider file. -/
theorem checkClasses_widened (registers : RegisterFile) {statement : Statement} {variant : Variant}
    {captured : Captured variant.operandCount}
    (read : readOperands variant statement.operands = .ok captured) :
    checkClasses (statement.widened registers) variant.slots captured.names = .ok () := by
  have reading := ((readOperands_eq_ok_iff _ _ _).mp read).1
  rw [checkClasses_eq_ok_iff, List.all_eq_true]
  intro pair member
  have inText := reading.mem_operandWords pair.2 (List.of_mem_zip member).2
  simp [Statement.widened, inText]

/-- A line is read in the wider register file first, and then the classes of its operands
are checked in the given one. -/
theorem readAs_eq_bind (registers : RegisterFile) (statement : Statement) (variant : Variant) :
    readAs registers statement variant = do
      let instruction ← readAs (statement.widened registers) statement variant
      checkClasses registers variant.slots instruction.operands
      return instruction := by
  unfold readAs
  cases checkMnemonic variant statement.mnemonic with
  | error reason => rfl
  | ok named =>
      cases readSuffix variant.suffixKind statement.suffix with
      | error reason => rfl
      | ok suffix =>
          cases read : readOperands variant statement.operands with
          | error reason => rfl
          | ok captured =>
              simp only [bind, Except.bind, checkClasses_widened registers read]
              rfl

/-! ## The first stage that fails -/

/-- The mnemonics are the same up to the case of letters. -/
def Statement.Names (statement : Statement) (variant : Variant) : Prop :=
  lowerCase statement.mnemonic = lowerCase variant.mnemonic.toList

/-- The suffix of a statement in small letters. -/
def Statement.lowerSuffix (statement : Statement) : Option String :=
  statement.suffix.map fun suffix => String.ofList (lowerCase suffix)

/-- The reason comes from the check of the stage, and the checks before it succeed. -/
def FailsAt (registers : RegisterFile) (statement : Statement) (variant : Variant)
    (reason : Mismatch) : Stage → Prop
  | .mnemonic => checkMnemonic variant statement.mnemonic = .error reason
  | .suffix =>
      statement.Names variant ∧ readSuffix variant.suffixKind statement.suffix = .error reason
  | .operands =>
      (statement.Names variant ∧ variant.takesSuffix statement.lowerSuffix = true) ∧
        readOperands variant statement.operands = .error reason
  | .classes => ∃ instruction,
      readAs (statement.widened registers) statement variant = .ok instruction ∧
        checkClasses registers variant.slots instruction.operands = .error reason

section

variable {registers : RegisterFile} {statement : Statement} {variant : Variant} {reason : Mismatch}

theorem FailsAt.stage_eq {stage : Stage}
    (fails : FailsAt registers statement variant reason stage) : reason.stage = stage := by
  cases stage with
  | mnemonic =>
      rcases (checkMnemonic_eq_error_iff _ _ _).mp fails with ⟨-, rfl⟩
      rfl
  | suffix =>
      rcases (readSuffix_eq_error_iff _ _ _).mp fails.2 with
        ⟨_, -, -, rfl⟩ | ⟨_, -, -, rfl⟩ | ⟨_, _, -, -, -, rfl⟩
      all_goals rfl
  | operands => exact failsIn_readOperands _ _ _ fails.2
  | classes =>
      rcases fails with ⟨_, -, failed⟩
      rcases (checkClasses_eq_error_iff _ _ _ _).mp failed with ⟨_, _, _, -, rfl⟩
      rfl

theorem readAs_widened_eq_ok_iff {instruction : Instruction} :
    readAs (statement.widened registers) statement variant = .ok instruction ↔
      (statement.Names variant ∧ variant.takesSuffix statement.lowerSuffix = true) ∧
        ∃ captured, readOperands variant statement.operands = .ok captured ∧
          ⟨variant, captured.names, captured.names_length, statement.lowerSuffix,
            captured.address⟩ = instruction := by
  simp only [readAs, bind_eq_ok_iff]
  constructor
  · intro read
    rcases read with ⟨⟨⟩, mnemonic, suffix, suffixRead, captured, operandsRead, -, -, returned⟩
    rcases (readSuffix_eq_ok_iff _ _ _).mp suffixRead with ⟨rfl, takes⟩
    exact ⟨⟨(checkMnemonic_eq_ok_iff _ _).mp mnemonic, takes⟩, captured, operandsRead,
      Except.ok.inj returned⟩
  · intro parts
    rcases parts with ⟨⟨names, takes⟩, captured, operandsRead, rfl⟩
    exact ⟨(), (checkMnemonic_eq_ok_iff _ _).mpr names, statement.lowerSuffix,
      (readSuffix_eq_ok_iff _ _ _).mpr ⟨rfl, takes⟩, captured, operandsRead, (),
      checkClasses_widened registers operandsRead, rfl⟩

theorem exists_failsAt (failed : readAs registers statement variant = .error reason) :
    ∃ stage, FailsAt registers statement variant reason stage := by
  unfold readAs at failed
  rcases (bind_eq_error_iff _ _ _).mp failed with failed | ⟨⟨⟩, mnemonic, failed⟩
  · exact ⟨.mnemonic, failed⟩
  have names : statement.Names variant := (checkMnemonic_eq_ok_iff _ _).mp mnemonic
  rcases (bind_eq_error_iff _ _ _).mp failed with failed | ⟨suffix, suffixRead, failed⟩
  · exact ⟨.suffix, names, failed⟩
  rcases (readSuffix_eq_ok_iff _ _ _).mp suffixRead with ⟨rfl, takes⟩
  rcases (bind_eq_error_iff _ _ _).mp failed with failed | ⟨captured, operandsRead, failed⟩
  · exact ⟨.operands, ⟨names, takes⟩, failed⟩
  rcases (bind_eq_error_iff _ _ _).mp failed with failed | ⟨⟨⟩, -, returned⟩
  · exact ⟨.classes, _, readAs_widened_eq_ok_iff.mpr
      ⟨⟨names, takes⟩, captured, operandsRead, rfl⟩, failed⟩
  · cases returned

theorem FailsAt.readAs_eq {stage : Stage}
    (fails : FailsAt registers statement variant reason stage) :
    readAs registers statement variant = .error reason := by
  cases stage with
  | mnemonic =>
      unfold readAs
      exact (bind_eq_error_iff _ _ _).mpr (.inl fails)
  | suffix =>
      rcases fails with ⟨names, failed⟩
      unfold readAs
      refine (bind_eq_error_iff _ _ _).mpr (.inr ⟨(), (checkMnemonic_eq_ok_iff _ _).mpr names, ?_⟩)
      exact (bind_eq_error_iff _ _ _).mpr (.inl failed)
  | operands =>
      rcases fails with ⟨⟨names, takes⟩, failed⟩
      unfold readAs
      refine (bind_eq_error_iff _ _ _).mpr (.inr ⟨(), (checkMnemonic_eq_ok_iff _ _).mpr names, ?_⟩)
      refine (bind_eq_error_iff _ _ _).mpr
        (.inr ⟨_, (readSuffix_eq_ok_iff _ _ _).mpr ⟨rfl, takes⟩, ?_⟩)
      exact (bind_eq_error_iff _ _ _).mpr (.inl failed)
  | classes =>
      rcases fails with ⟨instruction, read, failed⟩
      rw [readAs_eq_bind]
      refine (bind_eq_error_iff _ _ _).mpr (.inr ⟨instruction, read, ?_⟩)
      exact (bind_eq_error_iff _ _ _).mpr (.inl failed)

/-- A variant fails in the stage of the reason that it gives. -/
theorem readAs_eq_error_iff :
    readAs registers statement variant = .error reason ↔
      FailsAt registers statement variant reason reason.stage := by
  constructor
  · intro failed
    rcases exists_failsAt failed with ⟨stage, fails⟩
    rw [fails.stage_eq]
    exact fails
  · exact FailsAt.readAs_eq

theorem readAs_eq_registerClass_iff {slot : Nat} {name : String} {expected : RegisterClass} :
    readAs registers statement variant = .error (.registerClass slot name expected) ↔
      ∃ instruction, readAs (statement.widened registers) statement variant = .ok instruction ∧
        FirstMisfit registers variant.slots instruction.operands slot name expected := by
  rw [readAs_eq_error_iff]
  refine exists_congr fun instruction => and_congr_right fun _ => ?_
  rw [checkClasses_eq_error_iff]
  constructor
  · intro found
    rcases found with ⟨_, _, _, first, same⟩
    cases same
    exact first
  · intro first
    exact ⟨_, _, _, first, rfl⟩

/-- A variant that reads the line in the wider file fails for no other reason. -/
theorem readAs_fails_in_classes_iff :
    (∃ slot name expected,
        readAs registers statement variant = .error (.registerClass slot name expected)) ↔
      (∃ reason, readAs registers statement variant = .error reason) ∧
        ∃ instruction, readAs (statement.widened registers) statement variant = .ok instruction := by
  constructor
  · intro failed
    rcases failed with ⟨slot, name, expected, failed⟩
    rcases readAs_eq_registerClass_iff.mp failed with ⟨instruction, read, -⟩
    exact ⟨⟨_, failed⟩, instruction, read⟩
  · intro parts
    rcases parts with ⟨⟨reason, failed⟩, instruction, read⟩
    have failedAgain := failed
    rw [readAs_eq_bind, read] at failedAgain
    rcases (bind_eq_error_iff _ _ _).mp failedAgain with impossible | ⟨_, same, checked⟩
    · cases impossible
    cases same
    rcases (bind_eq_error_iff _ _ _).mp checked with checked | ⟨_, -, impossible⟩
    · rcases (checkClasses_eq_error_iff _ _ _ _).mp checked with ⟨slot, name, expected, -, rfl⟩
      exact ⟨slot, name, expected, failed⟩
    · cases impossible

theorem readAs_fails_in_operands_iff :
    (∃ reason, readAs registers statement variant = .error reason ∧ reason.stage = .operands) ↔
      (statement.Names variant ∧ variant.takesSuffix statement.lowerSuffix = true) ∧
        ∀ instruction,
          readAs (statement.widened registers) statement variant ≠ .ok instruction := by
  constructor
  · intro failed
    rcases failed with ⟨reason, failed, stage⟩
    have fails := readAs_eq_error_iff.mp failed
    rw [stage] at fails
    rcases fails with ⟨before, refused⟩
    refine ⟨before, fun instruction read => ?_⟩
    rcases readAs_widened_eq_ok_iff.mp read with ⟨-, captured, operandsRead, -⟩
    cases refused.symm.trans operandsRead
  · intro parts
    rcases parts with ⟨before, unread⟩
    cases refused : readOperands variant statement.operands with
    | error reason =>
        have stage := failsIn_readOperands _ _ _ refused
        refine ⟨reason, readAs_eq_error_iff.mpr ?_, stage⟩
        rw [stage]
        exact ⟨before, refused⟩
    | ok captured =>
        exact absurd (readAs_widened_eq_ok_iff.mpr ⟨before, captured, refused, rfl⟩) (unread _)

end

/-- What each reason of a variant says of the line, and when the variant gives it. -/
structure Diagnosis (registers : RegisterFile) (statement : Statement) (variant : Variant) :
    Prop where
  mnemonic : ∀ template found,
    readAs registers statement variant = .error (.mnemonic template found) ↔
      ¬statement.Names variant ∧ template = variant.template ∧
        found = String.ofList statement.mnemonic
  missingSuffix : ∀ kind,
    readAs registers statement variant = .error (.missingSuffix kind) ↔
      statement.Names variant ∧ variant.suffixKind = some kind ∧ statement.suffix = none
  unexpectedSuffix : ∀ found,
    readAs registers statement variant = .error (.unexpectedSuffix found) ↔
      statement.Names variant ∧ variant.suffixKind = none ∧
        statement.suffix.map String.ofList = some found
  suffix : ∀ found kind,
    readAs registers statement variant = .error (.suffix found kind) ↔
      statement.Names variant ∧ variant.suffixKind = some kind ∧
        statement.lowerSuffix = some found ∧ found ∉ kind.suffixes
  operands :
    (∃ reason, readAs registers statement variant = .error reason ∧ reason.stage = .operands) ↔
      (statement.Names variant ∧ variant.takesSuffix statement.lowerSuffix = true) ∧
        ∀ instruction, readAs (statement.widened registers) statement variant ≠ .ok instruction
  classes :
    (∃ slot name expected,
        readAs registers statement variant = .error (.registerClass slot name expected)) ↔
      (∃ reason, readAs registers statement variant = .error reason) ∧
        ∃ instruction, readAs (statement.widened registers) statement variant = .ok instruction
  firstMisfit : ∀ slot name expected,
    readAs registers statement variant = .error (.registerClass slot name expected) ↔
      ∃ instruction, readAs (statement.widened registers) statement variant = .ok instruction ∧
        FirstMisfit registers variant.slots instruction.operands slot name expected

theorem diagnosis (registers : RegisterFile) (statement : Statement) (variant : Variant) :
    Diagnosis registers statement variant where
  mnemonic := by
    intro template found
    rw [readAs_eq_error_iff]
    simp [FailsAt, Mismatch.stage, checkMnemonic_eq_error_iff, Statement.Names]
  missingSuffix := by
    intro kind
    rw [readAs_eq_error_iff]
    simp [FailsAt, Mismatch.stage, readSuffix_eq_error_iff]
  unexpectedSuffix := by
    intro found
    rw [readAs_eq_error_iff]
    simp [FailsAt, Mismatch.stage, readSuffix_eq_error_iff, @eq_comm _ found]
  suffix := by
    intro found kind
    rw [readAs_eq_error_iff]
    simp only [FailsAt, Mismatch.stage, readSuffix_eq_error_iff, Statement.lowerSuffix,
      Option.map_eq_some_iff]
    grind
  operands := readAs_fails_in_operands_iff
  classes := readAs_fails_in_classes_iff
  firstMisfit _ _ _ := readAs_eq_registerClass_iff

/-! ## The answer to a line -/

/-- An attempt for every variant that was tried, with the reason that the variant gives. -/
def Attempted (registers : RegisterFile) (statement : Statement) :
    List Variant → List Attempt → Prop :=
  List.Forall₂ fun variant attempt =>
    attempt.variant = variant.name ∧ readAs registers statement variant = .error attempt.reason

theorem attempted_rejected {registers : RegisterFile} {statement : Statement}
    (variants : List Variant)
    (unread : accepted (variants.map fun variant =>
      (variant, readAs registers statement variant)) = []) :
    Attempted registers statement variants (rejected (variants.map fun variant =>
      (variant, readAs registers statement variant))) := by
  induction variants with
  | nil => exact .nil
  | cons variant rest induction =>
      cases read : readAs registers statement variant with
      | ok instruction => simp [accepted, read, Except.toOption] at unread
      | error reason =>
          have restUnread : accepted (rest.map fun variant =>
              (variant, readAs registers statement variant)) = [] := by
            simpa [accepted, read, Except.toOption] using unread
          have attempts := induction restUnread
          simp only [rejected, List.map_cons, List.filterMap_cons, read]
          exact .cons ⟨rfl, read⟩ attempts

/-- The answer to a line: the candidates of the variants that read it or, where there are
none, the attempts with all variants. -/
structure Answered (dialect : Dialect) (line : String) (statement : Statement) : Prop where
  succeeds : (∃ candidates, parseLine dialect line = .ok candidates) ↔
    ∃ variant ∈ dialect.variants, ∃ instruction,
      readAs dialect.registers statement variant = .ok instruction
  candidates : ∀ candidates, parseLine dialect line = .ok candidates →
    candidates = dialect.variants.filterMap fun variant =>
      (readAs dialect.registers statement variant).toOption
  attempts : ∀ fault, parseLine dialect line = .error fault → ∃ attempts,
    fault = .noMatchingVariant dialect.name (stripComment line) attempts ∧
      Attempted dialect.registers statement dialect.variants attempts

theorem accepted_readings (dialect : Dialect) (text : List Char) :
    accepted (readings dialect text) = dialect.variants.filterMap fun variant =>
      (readAs dialect.registers (.ofCode text) variant).toOption := by
  rw [accepted, readings, List.filterMap_map]
  rfl

theorem answered (dialect : Dialect) (line : String) :
    Answered dialect line (.ofCode (code line.toList)) where
  succeeds := by
    constructor
    · intro parsedLine
      rcases parsedLine with ⟨candidates, parsed⟩
      rcases (parseLine_eq_ok_iff _ _ _).mp parsed with ⟨nonempty, read⟩
      rcases List.exists_mem_of_ne_nil _ nonempty with ⟨instruction, member⟩
      rw [← read, accepted_readings] at member
      rcases List.mem_filterMap.mp member with ⟨variant, isVariant, read⟩
      exact ⟨variant, isVariant, instruction, (toOption_eq_some_iff _ _).mp read⟩
    · intro read
      rcases read with ⟨variant, isVariant, instruction, read⟩
      have member : instruction ∈ accepted (readings dialect (code line.toList)) := by
        rw [accepted_readings]
        exact List.mem_filterMap.mpr ⟨variant, isVariant, (toOption_eq_some_iff _ _).mpr read⟩
      exact ⟨_, (parseLine_eq_ok_iff _ _ _).mpr ⟨List.ne_nil_of_mem member, rfl⟩⟩
  candidates := by
    intro candidates parsed
    rw [← accepted_readings]
    exact ((parseLine_eq_ok_iff _ _ _).mp parsed).2.symm
  attempts := by
    intro fault refused
    rcases (parseLine_eq_error_iff _ _ _).mp refused with ⟨unread, rfl⟩
    exact ⟨_, rfl, attempted_rejected _ unread⟩

/-- A line writes one statement. The answer to it comes from the readings of the statement by
the variants, and each variant that does not read it says in which stage it fails. -/
theorem parseLine_diagnoses (dialect : Dialect) (line : String) :
    ∃ statement : Statement, statement.WrittenAs (code line.toList) ∧
      Answered dialect line statement ∧
      ∀ variant, Diagnosis dialect.registers statement variant :=
  ⟨_, (Statement.ofCode_eq_iff _ _).mp rfl, answered dialect line, diagnosis dialect.registers _⟩

/-- One variant reads all but the classes of the last two operands, the other not the suffix. -/
example :
    (heliumVariants.take 2).map (readAs heliumRegisters (.ofCode "VMUL.f32 q0, q9, x1".toList)) =
      [.error (.registerClass 1 "q9" .vector), .error (.suffix "f32" .integer)] := by
  decide +kernel

end Assembly

end IssueTiming
