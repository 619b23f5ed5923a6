import IssueTiming.Assembly.Line

/-!
# Listings

A listing is read line by line. Lines without code are passed over but counted,
and the first line that no variant reads ends the reading.
-/

namespace IssueTiming.Assembly

structure ParsedLine where
  /-- The position of the line in its listing, from one. -/
  number : Nat
  text : String
  candidates : List Instruction
deriving DecidableEq

/-- Whether a line holds no code. -/
def isVacant (line : String) : Bool :=
  (code line.toList).isEmpty

/-- Reads the lines of a listing, the first of which has the given number. -/
def parseListingFrom (dialect : Dialect) : Nat → List String → Except Fault (List ParsedLine)
  | _, [] => .ok []
  | number, line :: lines =>
      if isVacant line then parseListingFrom dialect (number + 1) lines
      else
        match parseLine dialect line with
        | .error fault => .error (.atLine number fault)
        | .ok candidates =>
            (parseListingFrom dialect (number + 1) lines).map
              (⟨number, line, candidates⟩ :: ·)

def parseListing (dialect : Dialect) (lines : List String) : Except Fault (List ParsedLine) :=
  parseListingFrom dialect 1 lines

/-- The first candidate of every line that holds code. -/
def ParsedLine.firstCandidates (lines : List ParsedLine) : List Instruction :=
  lines.filterMap fun line => line.candidates.head?

end IssueTiming.Assembly
