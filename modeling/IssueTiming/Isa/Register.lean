/-!
# Registers

Each operand slot of an instruction carries one register class. A register file
lists the names of a dialect, class by class; a name may belong to several
classes, and a lookup then answers the first.
-/

namespace IssueTiming

inductive RegisterClass where
  | gpr
  | vector
  | vectorStack
  | gprStack
deriving DecidableEq, Repr

namespace RegisterClass

def all : List RegisterClass :=
  [.gpr, .vector, .vectorStack, .gprStack]

theorem mem_all (registerClass : RegisterClass) : registerClass ∈ all := by
  cases registerClass <;> decide

/-- Whether the class names stack slots and not registers of the machine. -/
def isSpillSlot : RegisterClass → Bool
  | .vectorStack | .gprStack => true
  | .gpr | .vector => false

def name : RegisterClass → String
  | .gpr => "gpr"
  | .vector => "vector"
  | .vectorStack => "vector-stack"
  | .gprStack => "gpr-stack"

end RegisterClass

structure RegisterFile where
  gpr : List String
  vector : List String
  vectorStack : List String
  gprStack : List String
deriving DecidableEq, Repr

namespace RegisterFile

def names (registers : RegisterFile) : RegisterClass → List String
  | .gpr => registers.gpr
  | .vector => registers.vector
  | .vectorStack => registers.vectorStack
  | .gprStack => registers.gprStack

def contains (registers : RegisterFile) (registerClass : RegisterClass)
    (name : String) : Bool :=
  (registers.names registerClass).contains name

/-- The classes a name belongs to, in the order of `RegisterClass.all`. -/
def classesOf (registers : RegisterFile) (name : String) : List RegisterClass :=
  RegisterClass.all.filter fun registerClass => registers.contains registerClass name

/-- The first class a name belongs to. -/
def classOf? (registers : RegisterFile) (name : String) : Option RegisterClass :=
  RegisterClass.all.find? fun registerClass => registers.contains registerClass name

@[simp] theorem contains_eq_true_iff (registers : RegisterFile)
    (registerClass : RegisterClass) (name : String) :
    registers.contains registerClass name = true ↔ name ∈ registers.names registerClass := by
  simp [contains]

/-- A register file whose names are one stem and a running number per class. -/
def numbered (gpr vector vectorStack gprStack : String × Nat) : RegisterFile :=
  let names := fun (stem, count) =>
    (List.range count).map fun (index : Nat) => stem ++ toString index
  { gpr := names gpr
    vector := names vector
    vectorStack := names vectorStack
    gprStack := names gprStack }

example : (numbered ("r", 2) ("q", 1) ("Q", 0) ("R", 0)).gpr = ["r0", "r1"] := by decide

end RegisterFile

end IssueTiming
