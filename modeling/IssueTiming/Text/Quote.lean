import IssueTiming.Text.Printable

/-!
# Quoted texts

A quoted text stands between double quotes. A quote and a backslash are preceded
by a backslash, four control characters have letters, and what does not print is
shown by its number.
-/

namespace IssueTiming.Text

def escapeNumber (character : Char) : List Char :=
  ['\\', 'u', '\x7b'] ++ Nat.toDigits 16 character.toNat ++ ['\x7d']

def escape (character : Char) : List Char :=
  if character = '"' then ['\\', '"']
  else if character = '\\' then ['\\', '\\']
  else if character = '\n' then ['\\', 'n']
  else if character = '\r' then ['\\', 'r']
  else if character = '\t' then ['\\', 't']
  else if character = '\x00' then ['\\', '0']
  else if isPrintable character then [character]
  else escapeNumber character

def quote (text : String) : String :=
  String.ofList ('"' :: text.toList.flatMap escape ++ ['"'])

example : escape '"' = ['\\', '"'] ∧ escape 'é' = ['é'] ∧
    escape '\u00a0' = "\\u\x7ba0\x7d".toList := by decide +kernel

end IssueTiming.Text
