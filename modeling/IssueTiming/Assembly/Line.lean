import IssueTiming.Assembly.Comment
import IssueTiming.Assembly.Error
import IssueTiming.Assembly.Operand
import IssueTiming.Assembly.Statement
import IssueTiming.Text.Word

/-!
# Reading a line

A line is tried against every variant of a dialect in order. A variant reads it
when mnemonic, suffix and operand text agree with the variant and every operand
names a register of its slot's class. All variants that read a line are its
candidates; choosing among them is left to the caller.
-/

namespace IssueTiming.Assembly

def checkMnemonic (variant : Variant) (found : List Char) : Except Mismatch Unit :=
  if Text.sameWord found variant.mnemonic.toList then .ok ()
  else .error (.mnemonic variant.template (String.ofList found))

/-- The suffix in small letters; present exactly when the variant takes one. -/
def readSuffix : Option SuffixKind → Option (List Char) → Except Mismatch (Option String)
  | none, none => .ok none
  | none, some found => .error (.unexpectedSuffix (String.ofList found))
  | some kind, none => .error (.missingSuffix kind)
  | some kind, some found =>
      let suffix := String.ofList (Text.lowerCase found)
      if kind.accepts suffix then .ok (some suffix)
      else .error (.suffix suffix kind)

/-- The first slot whose operand is no register of the slot's class. -/
def misfit? (registers : RegisterFile) (slots : List RegisterClass) (names : List String) :
    Option (Nat × String × RegisterClass) :=
  ((slots.zip names).zipIdx.find? fun ((registerClass, name), _) =>
      !registers.contains registerClass name).map
    fun ((registerClass, name), slot) => (slot, name, registerClass)

def checkClasses (registers : RegisterFile) (slots : List RegisterClass)
    (names : List String) : Except Mismatch Unit :=
  match misfit? registers slots names with
  | none => .ok ()
  | some (slot, name, registerClass) => .error (.registerClass slot name registerClass)

def readAs (registers : RegisterFile) (statement : Statement) (variant : Variant) :
    Except Mismatch Instruction := do
  checkMnemonic variant statement.mnemonic
  let suffix ← readSuffix variant.suffixKind statement.suffix
  let captured ← readOperands variant statement.operands
  checkClasses registers variant.slots captured.names
  return ⟨variant, captured.names, captured.names_length, suffix, captured.address⟩

def accepted (readings : List (Variant × Except Mismatch Instruction)) : List Instruction :=
  readings.filterMap fun (_, reading) => reading.toOption

def rejected (readings : List (Variant × Except Mismatch Instruction)) : List Attempt :=
  readings.filterMap fun (variant, reading) =>
    match reading with
    | .ok _ => none
    | .error reason => some ⟨variant.name, reason⟩

/-- Every variant of a dialect with its reading of a code text. -/
def readings (dialect : Dialect) (text : List Char) :
    List (Variant × Except Mismatch Instruction) :=
  dialect.variants.map fun variant =>
    (variant, readAs dialect.registers (.ofCode text) variant)

/-- The candidates for a line, in the order of the dialect's variants. -/
def parseLine (dialect : Dialect) (line : String) : Except Fault (List Instruction) :=
  let text := code line.toList
  match accepted (readings dialect text) with
  | [] => .error (.noMatchingVariant dialect.name (String.ofList text)
      (rejected (readings dialect text)))
  | candidates => .ok candidates

end IssueTiming.Assembly
