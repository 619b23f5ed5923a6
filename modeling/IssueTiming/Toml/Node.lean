/-!
# TOML documents as trees

The tables of a document are defined piece by piece: by their headers, on the
way to longer headers, and by dotted keys. How a table came about decides who
may still add to it, so each table remembers its origin.
-/

namespace IssueTiming.Toml

/-- How a table came about. -/
inductive Origin where
  /-- Written between braces; complete as it stands. -/
  | braces
  /-- Named by a header of its own. -/
  | header
  /-- Named on the way to a longer header; its own header may still follow. -/
  | implied
  /-- Named on the way along a dotted key. -/
  | dotted
deriving DecidableEq, Repr

/-- A value of a document. Floats and moments are of interest for their place
alone. -/
inductive Node where
  | string (text : String)
  | integer (value : Int)
  | float
  | bool (value : Bool)
  | moment
  | array (items : List Node)
  | table (origin : Origin) (entries : List (String × Node))
  /-- The tables that headers in double brackets have added, one after another. -/
  | tables (elements : List (List (String × Node)))

/-- The entries of a table; no two have the same key. -/
abbrev Entries := List (String × Node)

namespace Entries

def get? (entries : Entries) (key : String) : Option Node :=
  entries.lookup key

/-- Replaces the value of a key, or adds the key. -/
def set (entries : Entries) (key : String) (node : Node) : Entries :=
  match entries with
  | [] => [(key, node)]
  | (other, value) :: rest =>
      if other = key then (key, node) :: rest else (other, value) :: set rest key node

/-- Changes the table at the end of a path and everything above it. Tables that
the path names for the first time are made. An array of tables stands for the
last of them. With `dotted`, the path belongs to a dotted key, which does not
lead through tables that have headers of their own. The change is told the
origin of the table it works on. -/
def changeAt (dotted : Bool) (change : Origin → Entries → Option Entries) :
    List String → Origin → Entries → Option Entries
  | [], origin, entries => change origin entries
  | key :: path, _, entries =>
      let node? : Option Node :=
        match entries.get? key with
        | none =>
            let origin : Origin := if dotted then .dotted else .implied
            (changeAt dotted change path origin []).map (.table origin)
        | some (.table origin inner) =>
            if origin = .braces ∨ (dotted ∧ origin = .header) then none
            else (changeAt dotted change path origin inner).map (.table origin)
        | some (.tables elements) =>
            match elements.getLast? with
            | none => none
            | some last =>
                (changeAt dotted change path .header last).map fun last =>
                  .tables (elements.dropLast ++ [last])
        | some _ => none
      node?.map (entries.set key)

/-- Adds a value under a dotted key. The key is new, and the table before its
last part is the given one or came about by a dotted key. -/
def assign (entries : Entries) (path : List String) (key : String) (node : Node) :
    Option Entries :=
  changeAt true
    (fun origin inner =>
      if (path.isEmpty ∨ origin = .dotted) ∧ (inner.get? key).isNone then
        some (inner.set key node)
      else none)
    path .header entries

/-- Adds values under dotted keys, in order. -/
def assignAll (entries : Entries) : List (List String × String × Node) → Option Entries
  | [] => some entries
  | (path, key, node) :: rest => do
      assignAll (← entries.assign path key node) rest

/-- Adds the table of a header with its assignments. The header may name a table
for the first time, or one that longer headers imply. -/
def addTable (entries : Entries) (path : List String) (key : String)
    (assignments : List (List String × String × Node)) : Option Entries :=
  changeAt false
    (fun _ inner => do
      let former ←
        match inner.get? key with
        | none => some []
        | some (.table .implied former) => some former
        | some _ => none
      return inner.set key (.table .header (← assignAll former assignments)))
    path .header entries

/-- Adds a further table to an array of tables, which may be new. -/
def addElement (entries : Entries) (path : List String) (key : String)
    (assignments : List (List String × String × Node)) : Option Entries :=
  changeAt false
    (fun _ inner => do
      let elements ←
        match inner.get? key with
        | none => some []
        | some (.tables elements) => some elements
        | some _ => none
      return inner.set key (.tables (elements ++ [← assignAll [] assignments])))
    path .header entries

end Entries

end IssueTiming.Toml
