import IssueTiming.Isa.Variant

/-!
# Why a variant does not read a line

A line that no variant reads is answered with one reason per variant. Every
reason is a cause with the texts that show it; `message` puts it into words.
-/

namespace IssueTiming.Assembly

inductive AddressFault where
  | noOpeningBracket
  | noClosingBracket
  | noCommaBeforeBracket
  | noHash (token : String)
  | emptyImmediate
  | unexpectedText (text : String)
deriving DecidableEq, Repr

namespace AddressFault

def detail : AddressFault → String
  | .noOpeningBracket => "missing '['"
  | .noClosingBracket => "missing ']'"
  | .noCommaBeforeBracket => "expected ',' before '['"
  | .noHash token => "immediate '" ++ token ++ "' must start with '#'"
  | .emptyImmediate => "empty immediate"
  | .unexpectedText text => "unexpected '" ++ text ++ "' after address"

end AddressFault

inductive Mismatch where
  | mnemonic (template found : String)
  | missingSuffix (kind : SuffixKind)
  /-- The suffix of the line, in small letters, is not of the variant's kind. -/
  | suffix (found : String) (kind : SuffixKind)
  | unexpectedSuffix (found : String)
  | operandCount (expected found : Nat)
  | operand (token : String)
  /-- An identifier that names no register of its slot's class. Slots count from zero. -/
  | registerClass (slot : Nat) (token : String) (expected : RegisterClass)
  | address (fault : AddressFault)
  | writebackWithPostIndex
deriving DecidableEq, Repr

namespace Mismatch

def suffixList (suffixes : List String) : String :=
  "[" ++ String.intercalate ", " (suffixes.map fun suffix => "\"" ++ suffix ++ "\"") ++ "]"

example : suffixList ["f16", "f32"] = "[\"f16\", \"f32\"]" := by decide

def message : Mismatch → String
  | .mnemonic template found =>
      "mnemonic '" ++ found ++ "' does not match '" ++ template ++ "'"
  | .missingSuffix kind =>
      "missing datatype suffix, expected one of " ++ suffixList kind.suffixes
  | .suffix found kind =>
      "datatype suffix '" ++ found ++ "' not in " ++ suffixList kind.suffixes
  | .unexpectedSuffix found => "unexpected datatype suffix '" ++ found ++ "'"
  | .operandCount expected found =>
      "expected " ++ toString expected ++ " operands, found " ++ toString found
  | .operand token => "malformed operand '" ++ token ++ "'"
  | .registerClass slot token expected =>
      "operand " ++ toString slot ++ " '" ++ token ++ "' is not a " ++ expected.name ++ " register"
  | .address fault => "malformed address: " ++ fault.detail
  | .writebackWithPostIndex => "write-back and post-increment cannot be combined"

end Mismatch

/-- A variant that was tried on a line, with the reason why it does not read it. -/
structure Attempt where
  variant : String
  reason : Mismatch
deriving DecidableEq, Repr

namespace Attempt

def message (attempt : Attempt) : String :=
  attempt.variant ++ ": " ++ attempt.reason.message

end Attempt

end IssueTiming.Assembly
