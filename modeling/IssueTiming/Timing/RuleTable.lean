import IssueTiming.Isa.Capability

/-!
# Rule tables

A rule table gives instructions a value. Its rules are scanned in order and the
first rule whose key covers an instruction decides, so a narrow rule stands
before the broad one that it is an exception to.
-/

namespace IssueTiming

inductive Key where
  | operation (opcode : Opcode)
  | satisfies (test : Instruction → Bool)
  | anyOf (keys : List Key)

namespace Key

def operations (opcodes : List Opcode) : Key :=
  .anyOf (opcodes.map .operation)

mutual

def covers : Key → Instruction → Bool
  | .operation opcode, instruction => instruction.opcode == opcode
  | .satisfies test, instruction => test instruction
  | .anyOf keys, instruction => anyCovers keys instruction

def anyCovers : List Key → Instruction → Bool
  | [], _ => false
  | key :: keys, instruction => key.covers instruction || anyCovers keys instruction

end

theorem anyCovers_eq_any (keys : List Key) (instruction : Instruction) :
    anyCovers keys instruction = keys.any fun key => key.covers instruction := by
  induction keys with
  | nil => simp [anyCovers]
  | cons key keys induction => simp [anyCovers, induction]

mutual

/-- The key as a text. A test has no text of its own. -/
def render : Key → String
  | .operation opcode => opcode.name
  | .satisfies _ => "<predicate>"
  | .anyOf keys => "AnyOf([" ++ String.intercalate ", " (renderAll keys) ++ "])"

def renderAll : List Key → List String
  | [] => []
  | key :: keys => key.render :: renderAll keys

end

example : render (.anyOf [.operation .vmul, .satisfies Instruction.isFloat]) =
    "AnyOf([Vmul, <predicate>])" := by
  simp [render, renderAll, Opcode.name]

end Key

/-- An instruction for which a table has neither a rule nor a fallback. -/
structure NoRule where
  table : String
  owner : String
  instruction : String
deriving DecidableEq, Repr

namespace NoRule

def message (error : NoRule) : String :=
  error.owner ++ ": no rule in table '" ++ error.table ++ "' for '" ++ error.instruction ++ "'"

end NoRule

structure RuleTable (value : Type) where
  owner : String
  name : String
  rules : List (Key × value)
  /-- The value of an instruction that no rule covers. -/
  fallback : Option value

namespace RuleTable

/-- The value of the first rule that covers the instruction, or the fallback. -/
def lookup {value : Type} (table : RuleTable value) (instruction : Instruction) : Option value :=
  match table.rules.find? fun (key, _) => key.covers instruction with
  | some (_, found) => some found
  | none => table.fallback

/-- Like `lookup`, where a miss names the table and the instruction. -/
def resolve {value : Type} (table : RuleTable value) (instruction : Instruction) :
    Except NoRule value :=
  match table.lookup instruction with
  | some found => .ok found
  | none => .error ⟨table.name, table.owner, instruction.render⟩

end RuleTable

end IssueTiming
