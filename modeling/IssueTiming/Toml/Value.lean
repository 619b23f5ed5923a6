import IssueTiming.Toml.Moment
import IssueTiming.Toml.Node
import IssueTiming.Toml.Number
import IssueTiming.Toml.Quoted

/-!
# TOML keys and values

A key is one or more parts between points. A value is a scalar, an array or a
table in braces. Arrays may be spread over lines and end in a comma; tables in
braces stay on one line and do not. Values nest less than eighty deep, and a key
has fewer than eighty parts.
-/

namespace IssueTiming.Toml

def nestingLimit : Nat := 80

def scanKeyPart : Scanner String := fun text =>
  match scanKeyString text with
  | some found => some found
  | none =>
      let bare := text.takeWhile isBareKey
      if bare.isEmpty then none else some (String.ofList bare, text.dropWhile isBareKey)

def scanSpacedKeyPart : Scanner String := fun text => do
  let (part, text) ← scanKeyPart (skipSpaces text)
  return (part, skipSpaces text)

def scanKey : Scanner (List String × String) := fun text => do
  let (first, text) ← scanSpacedKeyPart text
  let (others, text) := repeatAll (fun text => do scanSpacedKeyPart (← expect '.' text)) text
  let parts := first :: others
  if parts.length < nestingLimit then return ((parts.dropLast, parts.getLastD first), text)
  else none

def scanScalar : Scanner Node := fun text =>
  match text with
  | '"' :: _ | '\'' :: _ => (scanString text).map fun (value, rest) => (.string value, rest)
  | 't' :: _ => (expectAll "true".toList text).map fun rest => (.bool true, rest)
  | 'f' :: _ => (expectAll "false".toList text).map fun rest => (.bool false, rest)
  | _ =>
      match scanMoment text with
      | some rest => some (.moment, rest)
      | none =>
          match scanFloat text with
          | some rest => some (.float, rest)
          | none => (scanInteger text).map fun (value, rest) => (.integer value, rest)

/-- The items of an array after its opening bracket, up to the closing one. -/
def scanItems (item : Scanner Node) : Nat → Scanner (List Node)
  | 0, _ => none
  | budget + 1, text => do
      let text ← skipLayout false text
      match text with
      | ']' :: rest => return ([], rest)
      | text =>
          let (value, text) ← item text
          match ← skipLayout false text with
          | ']' :: rest => return ([value], rest)
          | ',' :: rest =>
              let (values, rest) ← scanItems item budget rest
              return (value :: values, rest)
          | _ => none

/-- A key, an equals sign and a value, with the spaces around them. -/
def scanAssignment (item : Scanner Node) : Scanner (List String × String × Node) := fun text => do
  let ((path, key), text) ← scanKey text
  let text ← expect '=' text
  let (value, text) ← item (skipSpaces text)
  return ((path, key, value), skipSpaces text)

/-- The assignments of a table in braces that is not empty, up to its end. -/
def scanAssignments (item : Scanner Node) : Nat → Scanner (List (List String × String × Node))
  | 0, _ => none
  | budget + 1, text => do
      let (assignment, text) ← scanAssignment item text
      match text with
      | '\x7d' :: rest => return ([assignment], rest)
      | ',' :: rest =>
          let (others, rest) ← scanAssignments item budget rest
          return (assignment :: others, rest)
      | _ => none

def scanBraces (item : Scanner Node) : Scanner Node := fun text => do
  match skipSpaces text with
  | '\x7d' :: rest => return (.table .braces [], rest)
  | text =>
      let (assignments, rest) ← scanAssignments item text.length text
      return (.table .braces (← Entries.assignAll [] assignments), rest)

def scanValue : Nat → Scanner Node
  | 0, text => scanScalar text
  | _ + 1, [] => none
  | levels + 1, head :: rest =>
      if head = '[' then
        (scanItems (scanValue levels) (rest.length + 1) rest).map fun (items, rest) =>
          (.array items, rest)
      else if head = '\x7b' then scanBraces (scanValue levels) rest
      else scanScalar (head :: rest)

end IssueTiming.Toml
