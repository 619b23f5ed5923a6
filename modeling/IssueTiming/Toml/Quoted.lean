import IssueTiming.Toml.Scan

/-!
# TOML strings

A basic string stands in double quotes and may hold escapes; a literal string
stands in single quotes and holds its text as it is. Either may be written on
several lines between three quotes. A line break at the start of such a string
is dropped, and every other one counts as a single line feed.
-/

namespace IssueTiming.Toml

/-- The character with a code point that is no surrogate. -/
def scalar? (code : Nat) : Option Char :=
  if valid : code.isValidChar then some (Char.ofNatAux code valid) else none

def scanCodePoint (length : Nat) : Scanner Char := fun text => do
  let digits := (text.take length).filterMap (digitValue? 16)
  if digits.length = length then
    return (← scalar? (ofDigits 16 digits), text.drop length)
  else none

def scanEscape : Scanner Char
  | 'b' :: rest => some ('\x08', rest)
  | 't' :: rest => some ('\t', rest)
  | 'n' :: rest => some ('\n', rest)
  | 'f' :: rest => some ('\x0c', rest)
  | 'r' :: rest => some ('\r', rest)
  | '"' :: rest => some ('"', rest)
  | '\\' :: rest => some ('\\', rest)
  | 'u' :: rest => scanCodePoint 4 rest
  | 'U' :: rest => scanCodePoint 8 rest
  | _ => none

def scanBasicChar : Scanner Char
  | '\\' :: rest => scanEscape rest
  | '"' :: _ => none
  | head :: rest => if isTextual head then some (head, rest) else none
  | [] => none

def scanLiteralChar : Scanner Char
  | '\'' :: _ => none
  | head :: rest => if isTextual head then some (head, rest) else none
  | [] => none

def scanShortString (quote : Char) (item : Scanner Char) : Scanner String := fun text => do
  let text ← expect quote text
  let (characters, text) := repeatAll item text
  let text ← expect quote text
  return (String.ofList characters, text)

/-- A backslash at the end of a line, with the blanks and line breaks after it. -/
def lineContinuation? : List Char → Option (List Char)
  | '\\' :: rest => (lineBreak? (skipSpaces rest)).map skipBlankLines
  | _ => none

/-- A piece of a string on several lines: a line break, a quote that does not
begin the closing quotes, a line continuation where they are allowed, or a
character. -/
def scanLongPiece (quote : Char) (continues : Bool) (item : Scanner Char) :
    Scanner (List Char) := fun text =>
  match lineBreak? text with
  | some rest => some (['\n'], rest)
  | none =>
      match expect quote text with
      | some rest =>
          if (expectAll [quote, quote] rest).isSome then none else some ([quote], rest)
      | none =>
          match (if continues then lineContinuation? text else none) with
          | some rest => some ([], rest)
          | none => (item text).map fun (character, rest) => ([character], rest)

/-- The closing quotes, with up to two quotes that belong to the string. -/
def scanClosing (quote : Char) : Scanner (List Char) := fun text =>
  match expectAll [quote, quote, quote, quote, quote] text with
  | some rest => some ([quote, quote], rest)
  | none =>
      match expectAll [quote, quote, quote, quote] text with
      | some rest => some ([quote], rest)
      | none => (expectAll [quote, quote, quote] text).map fun rest => ([], rest)

def scanLongString (quote : Char) (continues : Bool) (item : Scanner Char) :
    Scanner String := fun text => do
  let text ← expectAll [quote, quote, quote] text
  let text := (lineBreak? text).getD text
  let (pieces, text) := repeatAll (scanLongPiece quote continues item) text
  let (closing, text) ← scanClosing quote text
  return (String.ofList (pieces.flatten ++ closing), text)

def scanKeyString : Scanner String := fun text =>
  match text.head? with
  | some '"' => scanShortString '"' scanBasicChar text
  | some '\'' => scanShortString '\'' scanLiteralChar text
  | _ => none

def scanString : Scanner String := fun text =>
  if (expectAll ['"', '"', '"'] text).isSome then scanLongString '"' true scanBasicChar text
  else if (expectAll ['\'', '\'', '\''] text).isSome then
    scanLongString '\'' false scanLiteralChar text
  else scanKeyString text

example : (scanString "\"a\\u00e9\" rest".toList).map (·.2) = some " rest".toList := by decide

end IssueTiming.Toml
