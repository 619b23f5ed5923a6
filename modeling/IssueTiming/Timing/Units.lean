/-!
# Execution units

A core declares its own units, at most thirty-two of them, and a set of units is
a word with one bit per unit. What an instruction needs is one unit of a set, or
one unit of each of several sets in the same cycle.
-/

namespace IssueTiming

/-- A closed type of units: every unit has a bit, and the names stand in the
order of the bits. -/
class ExecutionUnit (unit : Type) where
  index : unit → Fin 32
  names : List String

structure UnitSet where
  mask : BitVec 32
deriving DecidableEq, Repr

namespace UnitSet

def empty : UnitSet :=
  ⟨0⟩

def insert (set : UnitSet) (index : Fin 32) : UnitSet :=
  ⟨set.mask ||| BitVec.twoPow 32 index⟩

def ofIndices (indices : List (Fin 32)) : UnitSet :=
  indices.foldl insert empty

/-- The set of exactly the given units. -/
def of {unit : Type} [ExecutionUnit unit] (units : List unit) : UnitSet :=
  ofIndices (units.map ExecutionUnit.index)

/-- Whether the unit with a given index is in the set; no set reaches beyond
index thirty-one. -/
def contains (set : UnitSet) (index : Nat) : Bool :=
  set.mask.getLsbD index

def size (set : UnitSet) : Nat :=
  set.mask.cpop.toNat

def isEmpty (set : UnitSet) : Bool :=
  set.mask == 0

def indices (set : UnitSet) : List Nat :=
  (List.range 32).filter set.contains

def isSubset (set other : UnitSet) : Bool :=
  set.mask &&& ~~~other.mask == 0

def disjoint (set other : UnitSet) : Bool :=
  set.mask &&& other.mask == 0

def braced (texts : List String) : String :=
  "\x7b" ++ String.intercalate ", " texts ++ "\x7d"

/-- The names of the members. A member beyond the end of the names has none and
is left out. -/
def render (set : UnitSet) (names : List String) : String :=
  braced (set.indices.filterMap (names[·]?))

def renderIndices (set : UnitSet) : String :=
  braced (set.indices.map toString)

example : (ofIndices [2, 0, 2]).indices = [0, 2] := by decide

example : (ofIndices [0, 31]).contains 31 = true ∧
    (ofIndices [0, 31]).contains 32 = false := by decide

end UnitSet

inductive UnitRequirement where
  | anyOf (set : UnitSet)
  | allOf (sets : List UnitSet)
deriving DecidableEq, Repr

namespace UnitRequirement

def any {unit : Type} [ExecutionUnit unit] (units : List unit) : UnitRequirement :=
  .anyOf (.of units)

def all {unit : Type} [ExecutionUnit unit] (groups : List (List unit)) : UnitRequirement :=
  .allOf (groups.map UnitSet.of)

/-- The sets of alternatives, one per unit that is occupied at once. -/
def sets : UnitRequirement → List UnitSet
  | .anyOf set => [set]
  | .allOf sets => sets

def isConjunction : UnitRequirement → Bool
  | .anyOf _ => false
  | .allOf sets => decide (2 ≤ sets.length)

end UnitRequirement

end IssueTiming
