/-!
# Relations between issue cycles

A latency is a number of cycles from a producer to its consumer. It may come
with a relation that the two issue cycles have to satisfy as well.
-/

namespace IssueTiming

/-- A relation between the issue cycles of two instructions. -/
inductive Relation where
  /-- The second issues exactly so many cycles after the first. -/
  | exactly (distance : Nat)
  /-- The second issues at least so many cycles after the first. -/
  | atLeast (distance : Nat)
  /-- The two issue at least so many cycles apart, in either order. -/
  | apart (distance : Nat)
  /-- The two do not issue in consecutive cycles. -/
  | notAdjacent
deriving DecidableEq, Repr

namespace Relation

def Holds : Relation → (first second : Int) → Prop
  | .exactly distance, first, second => second - first = distance
  | .atLeast distance, first, second => distance ≤ second - first
  | .apart distance, first, second => distance ≤ (second - first).natAbs
  | .notAdjacent, first, second => (second - first).natAbs ≠ 1

instance (relation : Relation) (first second : Int) :
    Decidable (relation.Holds first second) := by
  cases relation <;> unfold Holds <;> infer_instance

example : (exactly 2).Holds 3 5 ∧ ¬ (exactly 2).Holds 5 3 := by decide

example : (apart 2).Holds 5 3 ∧ notAdjacent.Holds 4 4 ∧ ¬ notAdjacent.Holds 4 3 := by decide

/-- The relation as an inequality between two issue times. -/
def render : Relation → String
  | .exactly distance => "t2 == t1 + " ++ toString distance
  | .atLeast distance => "t2 >= t1 + " ++ toString distance
  | .apart distance => "|t2 - t1| >= " ++ toString distance
  | .notAdjacent => "|t2 - t1| != 1"

end Relation

/-- How long a result takes to reach a consumer. -/
inductive Latency where
  | plain (cycles : Nat)
  /-- The relation holds besides the delay whenever both instructions are placed. -/
  | paired (cycles : Nat) (relation : Relation)
deriving DecidableEq, Repr

namespace Latency

def cycles : Latency → Nat
  | .plain cycles => cycles
  | .paired cycles _ => cycles

def relation? : Latency → Option Relation
  | .plain _ => none
  | .paired _ relation => some relation

end Latency

end IssueTiming
