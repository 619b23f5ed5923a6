/-!
# Scanning TOML text

A scanner takes what it recognises from the front of a text and answers the
value with the rest of the text. This module holds the character classes of TOML
and the pieces that separate values: blanks, line ends and comments.
-/

namespace IssueTiming.Toml

/-- Recognises something at the front of a text, or nothing. -/
abbrev Scanner (α : Type) := List Char → Option (α × List Char)

/-! Character classes. Everything beyond ASCII is admitted where text is. -/

def isSpace (character : Char) : Bool :=
  character == ' ' || character == '\t'

/-- Characters of comments, and of strings up to their quotes: no control
character but the tab. -/
def isTextual (character : Char) : Bool :=
  character == '\t' ||
    (decide (0x20 ≤ character.toNat) && decide (character.toNat ≠ 0x7F))

def isBareKey (character : Char) : Bool :=
  character.isAlphanum || character == '-' || character == '_'

def isDigit (character : Char) : Bool :=
  character.isDigit

def digitValue? (base : Nat) (character : Char) : Option Nat :=
  let value? :=
    if character.isDigit then some (character.toNat - '0'.toNat)
    else if 'a' ≤ character ∧ character ≤ 'f' then some (character.toNat - 'a'.toNat + 10)
    else if 'A' ≤ character ∧ character ≤ 'F' then some (character.toNat - 'A'.toNat + 10)
    else none
  value?.filter (· < base)

/-- The number that a list of digits denotes, the highest digit first. -/
def ofDigits (base : Nat) (digits : List Nat) : Nat :=
  digits.foldl (fun value digit => value * base + digit) 0

example : ofDigits 10 [1, 0, 2] = 102 := by decide

/-! Scanners. -/

def expect (character : Char) : List Char → Option (List Char)
  | [] => none
  | head :: tail => if head = character then some tail else none

def expectAll : List Char → List Char → Option (List Char)
  | [], text => some text
  | character :: characters, text => do expectAll characters (← expect character text)

/-- Repeats a scanner up to a number of times and stops at its first failure. -/
def repeatUpTo {α : Type} (item : Scanner α) : Nat → List Char → List α × List Char
  | 0, text => ([], text)
  | budget + 1, text =>
      match item text with
      | none => ([], text)
      | some (value, rest) =>
          let (values, rest) := repeatUpTo item budget rest
          (value :: values, rest)

/-- Repeats a scanner that takes at least one character, as often as it succeeds. -/
def repeatAll {α : Type} (item : Scanner α) (text : List Char) : List α × List Char :=
  repeatUpTo item text.length text

def skipSpaces (text : List Char) : List Char :=
  text.dropWhile isSpace

def lineBreak? : List Char → Option (List Char)
  | '\n' :: rest => some rest
  | '\r' :: '\n' :: rest => some rest
  | _ => none

def skipBlankLines : List Char → List Char
  | ' ' :: rest => skipBlankLines rest
  | '\t' :: rest => skipBlankLines rest
  | '\n' :: rest => skipBlankLines rest
  | '\r' :: '\n' :: rest => skipBlankLines rest
  | text => text

/-- Skips spaces, line breaks and comments; `inComment` says whether the text
starts inside a comment. A comment ends with its line, which is not the end of
the text. -/
def skipLayout (inComment : Bool) : List Char → Option (List Char)
  | [] => if inComment then none else some []
  | '\r' :: '\n' :: rest => skipLayout false rest
  | head :: rest =>
      if head = '\n' then skipLayout false rest
      else if inComment then if isTextual head then skipLayout true rest else none
      else if isSpace head then skipLayout false rest
      else if head = '#' then skipLayout true rest
      else some (head :: rest)

example : skipLayout false "  # one\n\t2".toList = some ['2'] := by decide

/-- The end of a line: spaces, a comment, and a line break or the end of the text. -/
def lineEnd? (text : List Char) : Option (List Char) :=
  let text := skipSpaces text
  let text :=
    match text with
    | '#' :: comment => comment.dropWhile isTextual
    | text => text
  if text.isEmpty then some [] else lineBreak? text

end IssueTiming.Toml
