import IssueTiming.Assembly.Line
import IssueTiming.Proofs.Outcome
import IssueTiming.Proofs.Text.Words

/-!
# What a failed check reports

A variant is tried on a line in four stages, and every reason for a failure belongs to one
of them. Each check reports reasons of its own stage, and the checks of the mnemonic, the
suffix and the register classes report what they say here.
-/

namespace IssueTiming.Assembly

open Text

/-- The stages in which a variant is tried, in their order. -/
inductive Stage where
  | mnemonic
  | suffix
  | operands
  | classes
deriving DecidableEq, Repr

def Mismatch.stage : Mismatch → Stage
  | .mnemonic _ _ => .mnemonic
  | .missingSuffix _ | .suffix _ _ | .unexpectedSuffix _ => .suffix
  | .operandCount _ _ | .operand _ | .address _ | .writebackWithPostIndex => .operands
  | .registerClass _ _ _ => .classes

/-- A check that reports reasons of one stage only. -/
def FailsIn {Result : Type} (stage : Stage) (check : Except Mismatch Result) : Prop :=
  ∀ reason, check = .error reason → reason.stage = stage

section

variable {First Second : Type} {stage : Stage}

theorem failsIn_ok (value : First) : FailsIn stage (.ok value) := by
  intro reason failed
  cases failed

theorem failsIn_error (reason : Mismatch) :
    FailsIn reason.stage (.error reason : Except Mismatch First) := by
  intro found failed
  rw [Except.error.inj failed]

theorem FailsIn.bind {check : Except Mismatch First} {next : First → Except Mismatch Second}
    (first : FailsIn stage check) (second : ∀ value, FailsIn stage (next value)) :
    FailsIn stage (check >>= next) := by
  intro reason failed
  rcases (bind_eq_error_iff _ _ _).mp failed with failed | ⟨value, -, failed⟩
  · exact first reason failed
  · exact second value reason failed

theorem FailsIn.map {check : Except Mismatch First} (fails : FailsIn stage check)
    (transform : First → Second) : FailsIn stage (check.map transform) := by
  intro reason failed
  exact fails reason ((map_eq_error_iff _ _ _).mp failed)

end

/-! ## Operand texts -/

theorem failsIn_checkTokens (tokens : List (List Char)) :
    FailsIn .operands (checkTokens tokens) := by
  unfold checkTokens
  split
  · exact failsIn_ok _
  · exact failsIn_error (.operand _)

theorem failsIn_readImmediate (text : List Char) : FailsIn .operands (readImmediate text) := by
  unfold readImmediate
  split
  · dsimp only
    split
    · exact failsIn_error (.address _)
    · exact failsIn_ok _
  · exact failsIn_error (.address _)

theorem failsIn_splitBrackets (text : List Char) : FailsIn .operands (splitBrackets text) := by
  unfold splitBrackets
  split
  · exact failsIn_error (.address _)
  split
  · exact failsIn_error (.address _)
  · exact failsIn_ok _

theorem failsIn_leadingTokens (before : List Char) :
    FailsIn .operands (leadingTokens before) := by
  unfold leadingTokens
  dsimp only
  split
  · exact failsIn_ok _
  split
  · exact failsIn_ok _
  · exact failsIn_error (.address _)

theorem failsIn_readInside (inside : List Char) : FailsIn .operands (readInside inside) := by
  unfold readInside
  split
  · exact (failsIn_checkTokens _).bind fun _ => failsIn_ok _
  · exact (failsIn_readImmediate _).bind fun _ => (failsIn_checkTokens _).bind fun _ => failsIn_ok _

theorem failsIn_readIncrement (text : List Char) : FailsIn .operands (readIncrement text) := by
  unfold readIncrement
  split
  · exact failsIn_ok _
  · exact (failsIn_readImmediate _).map _
  · exact failsIn_error (.address _)

theorem failsIn_readAfter (after : List Char) : FailsIn .operands (readAfter after) := by
  unfold readAfter
  split
  · refine (failsIn_readIncrement _).bind fun _ => ?_
    split
    · exact failsIn_error .writebackWithPostIndex
    · exact failsIn_ok _
  · exact (failsIn_readIncrement _).map _

theorem failsIn_readPlainOperands (count : Nat) (text : List Char) :
    FailsIn .operands (readPlainOperands count text) := by
  unfold readPlainOperands
  dsimp only
  split
  · exact (failsIn_checkTokens _).bind fun _ => failsIn_ok _
  · exact failsIn_error (.operandCount _ _)

theorem failsIn_readMemoryOperands (count : Nat) (text : List Char) :
    FailsIn .operands (readMemoryOperands count text) := by
  unfold readMemoryOperands
  refine (failsIn_splitBrackets _).bind fun parts => (failsIn_leadingTokens _).bind fun tokens => ?_
  split
  · exact (failsIn_readInside _).bind fun _ => (failsIn_readAfter _).bind fun _ =>
      (failsIn_checkTokens _).bind fun _ => failsIn_ok _
  · exact failsIn_error (.operandCount _ _)

theorem failsIn_readOperands (variant : Variant) (text : List Char) :
    FailsIn .operands (readOperands variant text) := by
  unfold readOperands
  split
  · exact failsIn_readMemoryOperands _ _
  · exact failsIn_readPlainOperands _ _

/-! ## The other checks -/

theorem checkMnemonic_eq_error_iff (variant : Variant) (found : List Char) (reason : Mismatch) :
    checkMnemonic variant found = .error reason ↔
      lowerCase found ≠ lowerCase variant.mnemonic.toList ∧
        reason = .mnemonic variant.template (String.ofList found) := by
  unfold checkMnemonic
  split
  next same => simp [(sameWord_iff _ _).mp same]
  next different =>
    rw [sameWord_iff] at different
    simp [different, eq_comm]

theorem readSuffix_eq_error_iff (expected : Option SuffixKind) (found : Option (List Char))
    (reason : Mismatch) :
    readSuffix expected found = .error reason ↔
      (∃ kind, expected = some kind ∧ found = none ∧ reason = .missingSuffix kind) ∨
      (∃ suffix, expected = none ∧ found = some suffix ∧
        reason = .unexpectedSuffix (String.ofList suffix)) ∨
      ∃ kind suffix, expected = some kind ∧ found = some suffix ∧
        String.ofList (lowerCase suffix) ∉ kind.suffixes ∧
        reason = .suffix (String.ofList (lowerCase suffix)) kind := by
  cases expected with
  | none => cases found <;> simp [readSuffix, eq_comm]
  | some kind =>
      cases found with
      | none => simp [readSuffix, eq_comm]
      | some suffix =>
          simp only [readSuffix]
          split
          next accepted => simpa using fun refused => absurd accepted (by simpa using refused)
          next refused =>
            rw [SuffixKind.accepts_eq_true_iff] at refused
            simp [refused, eq_comm]

/-- The first slot whose operand does not name a register of the slot's class. -/
structure FirstMisfit (registers : RegisterFile) (slots : List RegisterClass)
    (names : List String) (slot : Nat) (name : String) (expected : RegisterClass) : Prop where
  expects : slots[slot]? = some expected
  holds : names[slot]? = some name
  misfit : name ∉ registers.names expected
  earlier : ∀ before < slot, ∀ registerClass fitting, slots[before]? = some registerClass →
    names[before]? = some fitting → fitting ∈ registers.names registerClass

theorem find?_zipIdx_eq_some_iff {Item : Type} (test : Item → Bool) (items : List Item)
    (item : Item) (position : Nat) :
    (items.zipIdx.find? fun (item, _) => test item) = some (item, position) ↔
      items[position]? = some item ∧ test item = true ∧
        ∀ before < position, ∀ other, items[before]? = some other → test other = false := by
  rw [List.find?_eq_some_iff_getElem]
  constructor
  · intro found
    rcases found with ⟨passes, index, inside, atIndex, failed⟩
    rw [List.getElem_zipIdx, Prod.mk.injEq, Nat.zero_add] at atIndex
    rcases atIndex with ⟨rfl, rfl⟩
    rw [List.length_zipIdx] at inside
    refine ⟨List.getElem?_eq_getElem inside, passes, ?_⟩
    intro before under other atBefore
    rcases List.getElem?_eq_some_iff.mp atBefore with ⟨within, rfl⟩
    simpa using failed before under
  · intro found
    rcases found with ⟨atPosition, passes, failed⟩
    rcases List.getElem?_eq_some_iff.mp atPosition with ⟨inside, rfl⟩
    refine ⟨passes, position, by simpa using inside, by simp, ?_⟩
    intro before under
    have before := failed before under _ (List.getElem?_eq_getElem (under.trans inside))
    simpa using before

theorem misfit?_eq_some_iff (registers : RegisterFile) (slots : List RegisterClass)
    (names : List String) (slot : Nat) (name : String) (expected : RegisterClass) :
    misfit? registers slots names = some (slot, name, expected) ↔
      FirstMisfit registers slots names slot name expected := by
  have located : misfit? registers slots names = some (slot, name, expected) ↔
      ((slots.zip names).zipIdx.find? fun (pair, _) => !registers.contains pair.1 pair.2) =
        some ((expected, name), slot) := by
    simp [misfit?, Option.map_eq_some_iff]
  rw [located, find?_zipIdx_eq_some_iff
    (fun pair : RegisterClass × String => !registers.contains pair.1 pair.2)]
  simp only [List.getElem?_zip_eq_some, Prod.forall, and_imp, Bool.not_eq_true',
    Bool.not_eq_false', RegisterFile.contains_eq_true_iff]
  rw [← Bool.not_eq_true, RegisterFile.contains_eq_true_iff]
  constructor
  · intro parts
    rcases parts with ⟨⟨expects, holds⟩, misfit, earlier⟩
    exact ⟨expects, holds, misfit, earlier⟩
  · intro first
    exact ⟨⟨first.expects, first.holds⟩, first.misfit, first.earlier⟩

theorem checkClasses_eq_error_iff (registers : RegisterFile) (slots : List RegisterClass)
    (names : List String) (reason : Mismatch) :
    checkClasses registers slots names = .error reason ↔
      ∃ slot name expected, FirstMisfit registers slots names slot name expected ∧
        reason = .registerClass slot name expected := by
  unfold checkClasses
  cases found : misfit? registers slots names with
  | none => simp [← misfit?_eq_some_iff, found]
  | some parts =>
      rcases parts with ⟨slot, name, expected⟩
      simp only [← misfit?_eq_some_iff, found, Except.error.injEq, Option.some.injEq, Prod.mk.injEq]
      constructor
      · intro same
        exact ⟨slot, name, expected, ⟨rfl, rfl, rfl⟩, same.symm⟩
      · intro same
        rcases same with ⟨_, _, _, ⟨rfl, rfl, rfl⟩, rfl⟩
        rfl

end IssueTiming.Assembly
