import IssueTiming.Assembly.Mismatch
import IssueTiming.Isa.Catalogue
import IssueTiming.Isa.Instruction

/-!
# What can be wrong with assembly text

One type for the failures of reading lines, listings and loops, of building
instructions and of finding a dialect.
-/

namespace IssueTiming.Assembly

inductive Fault where
  /-- No variant of the dialect reads the code; there is one attempt per variant. -/
  | noMatchingVariant (dialect code : String) (attempts : List Attempt)
  | operandCount (mismatch : OperandMismatch)
  | atLine (line : Nat) (source : Fault)
  | loopNotFound (label : String)
  | loopNotClosed (label : String)
  | unknownDialect (error : UnknownDialect)

namespace Fault

def message : Fault → String
  | .noMatchingVariant dialect code attempts =>
      "'" ++ code ++ "' is not a valid " ++ dialect ++ " instruction; tried:"
        ++ String.join (attempts.map fun attempt => "\n  " ++ attempt.message)
  | .operandCount ⟨variant, expected, found⟩ =>
      variant ++ ": expected " ++ toString expected ++ " operands, found " ++ toString found
  | .atLine line source => "line " ++ toString line ++ ": " ++ source.message
  | .loopNotFound label => "loop label '" ++ label ++ "' not found"
  | .loopNotClosed label =>
      "loop '" ++ label ++ "' is not closed by a branch back to its label"
  | .unknownDialect error => error.message

def attempts? : Fault → Option (List Attempt)
  | .noMatchingVariant _ _ attempts => some attempts
  | .atLine _ source => source.attempts?
  | _ => none

end Fault

end IssueTiming.Assembly
