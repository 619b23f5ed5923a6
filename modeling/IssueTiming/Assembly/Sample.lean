import IssueTiming.Isa.Dialect

/-!
# Sample lines

For every suffix a variant accepts there is one sample line: the operand in slot
number `n` is the name number `n` of its class, counted around its end.
-/

namespace IssueTiming.Assembly

def sampleName (registers : RegisterFile) (registerClass : RegisterClass) (slot : Nat) : String :=
  let names := registers.names registerClass
  names.getD (slot % names.length) ""

/-- The operand texts of a sample line; a memory variant has its base in brackets. -/
def sampleOperands (registers : RegisterFile) (variant : Variant) : List String :=
  let names := variant.slots.zipIdx.map fun (registerClass, slot) =>
    sampleName registers registerClass slot
  match variant.memory, names.getLast? with
  | some _, some base => names.dropLast ++ ["[" ++ base ++ "]"]
  | _, _ => names

def sampleLine (registers : RegisterFile) (variant : Variant) (suffix : Option String) : String :=
  variant.mnemonic
    ++ (match suffix with
        | none => ""
        | some suffix => "." ++ suffix)
    ++ (match sampleOperands registers variant with
        | [] => ""
        | operands => " " ++ String.intercalate ", " operands)

/-- The sample line with the first suffix the variant accepts. -/
def canonicalLine (dialect : Dialect) (variant : Variant) : String :=
  sampleLine dialect.registers variant (variant.suffixKind.bind fun kind => kind.suffixes.head?)

/-- One sample line per suffix the variant accepts, or a single one without. -/
def sampleLines (dialect : Dialect) (variant : Variant) : List String :=
  match variant.suffixKind with
  | none => [sampleLine dialect.registers variant none]
  | some kind => kind.suffixes.map fun suffix => sampleLine dialect.registers variant (some suffix)

end IssueTiming.Assembly
