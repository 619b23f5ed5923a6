/-!
# Words of ASCII text

Mnemonics are compared up to the case of ASCII letters. A register token is an
identifier: a letter or underscore, followed by letters, digits and underscores.
Other scripts have neither case nor letters here.
-/

namespace IssueTiming.Text

/-- The text with the ASCII capitals replaced by small letters. -/
def lowerCase (text : List Char) : List Char :=
  text.map Char.toLower

def sameWord (left right : List Char) : Bool :=
  lowerCase left == lowerCase right

example : sameWord "VMul".toList "vmul".toList = true := by decide

def isIdentifierStart (character : Char) : Bool :=
  character.isAlpha || character == '_'

def isIdentifierPart (character : Char) : Bool :=
  character.isAlphanum || character == '_'

def isIdentifier : List Char → Bool
  | [] => false
  | head :: tail => isIdentifierStart head && tail.all isIdentifierPart

example : isIdentifier "q0".toList = true ∧ isIdentifier "0q".toList = false ∧
    isIdentifier "é".toList = false := by decide

end IssueTiming.Text
