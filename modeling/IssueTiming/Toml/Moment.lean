import IssueTiming.Toml.Scan

/-!
# TOML dates and times

A moment is a date, a time of day, or a date with a time and perhaps the offset
of its zone. Months have their days, February by the Gregorian rule; a minute
may have a leap second.
-/

namespace IssueTiming.Toml

def scanFixed (length : Nat) : Scanner Nat := fun text =>
  let digits := (text.take length).filterMap (digitValue? 10)
  if digits.length = length then some (ofDigits 10 digits, text.drop length) else none

def scanBetween (low high : Nat) : Scanner Nat := fun text => do
  let (value, text) ← scanFixed 2 text
  if low ≤ value ∧ value ≤ high then return (value, text) else none

def isLeapYear (year : Nat) : Bool :=
  year % 4 == 0 && (year % 100 != 0 || year % 400 == 0)

def daysInMonth (year month : Nat) : Nat :=
  if month = 2 then if isLeapYear year then 29 else 28
  else if month = 4 ∨ month = 6 ∨ month = 9 ∨ month = 11 then 30
  else 31

example : daysInMonth 2000 2 = 29 ∧ daysInMonth 1900 2 = 28 := by decide

def scanDate (text : List Char) : Option (List Char) := do
  let (year, text) ← scanFixed 4 text
  let text ← expect '-' text
  let (month, text) ← scanBetween 1 12 text
  let text ← expect '-' text
  let (_, text) ← scanBetween 1 (daysInMonth year month) text
  return text

def skipSecondFraction (text : List Char) : List Char :=
  match text with
  | '.' :: rest => if rest.head?.any isDigit then rest.dropWhile isDigit else text
  | _ => text

def scanTime (text : List Char) : Option (List Char) := do
  let (_, text) ← scanBetween 0 23 text
  let text ← expect ':' text
  let (_, text) ← scanBetween 0 59 text
  let text ← expect ':' text
  let (_, text) ← scanBetween 0 60 text
  return skipSecondFraction text

def scanZone : List Char → Option (List Char)
  | 'Z' :: rest | 'z' :: rest => some rest
  | '+' :: rest | '-' :: rest => do
      let (_, rest) ← scanBetween 0 23 rest
      let rest ← expect ':' rest
      let (_, rest) ← scanBetween 0 59 rest
      return rest
  | _ => none

def skipTimeOfDate (text : List Char) : List Char :=
  match text with
  | head :: rest =>
      if head = 'T' ∨ head = 't' ∨ head = ' ' then
        match scanTime rest with
        | some after => (scanZone after).getD after
        | none => text
      else text
  | [] => text

/-- A date, perhaps with a time, or a time alone. Only its extent is of interest. -/
def scanMoment (text : List Char) : Option (List Char) :=
  match scanDate text with
  | some rest => some (skipTimeOfDate rest)
  | none => scanTime text

example : scanMoment "1979-05-27 07:32:00Z,".toList = some [','] := by decide

end IssueTiming.Toml
