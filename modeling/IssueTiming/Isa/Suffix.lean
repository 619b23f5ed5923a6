/-!
# Datatype suffixes

A mnemonic may end in a suffix that names the type of the vector lanes, as in
`vmul.s32`. An instruction variant accepts one kind of suffix, and a kind is the
list of suffixes it stands for.
-/

namespace IssueTiming

inductive SuffixKind where
  | integer
  | signed
  | float
  | any
  | word
deriving DecidableEq, Repr

namespace SuffixKind

/-- The suffixes of a kind, the one of a sample line first. -/
def suffixes : SuffixKind → List String
  | .integer => ["i8", "i16", "i32", "s8", "s16", "s32", "u8", "u16", "u32"]
  | .signed => ["s8", "s16", "s32"]
  | .float => ["f16", "f32"]
  | .any => ["i8", "i16", "i32", "s8", "s16", "s32", "u8", "u16", "u32", "f16", "f32"]
  | .word => ["u32", "s32", "f32"]

def accepts (kind : SuffixKind) (suffix : String) : Bool :=
  kind.suffixes.contains suffix

def placeholder : SuffixKind → String
  | .integer => "<int>"
  | .signed => "<signed>"
  | .float => "<float>"
  | .any => "<dt>"
  | .word => "<word>"

@[simp] theorem accepts_eq_true_iff (kind : SuffixKind) (suffix : String) :
    kind.accepts suffix = true ↔ suffix ∈ kind.suffixes := by
  simp [accepts]

theorem suffixes_ne_nil (kind : SuffixKind) : kind.suffixes ≠ [] := by
  cases kind <;> simp [suffixes]

end SuffixKind

def isFloatSuffix (suffix : String) : Bool :=
  suffix.toList.head? == some 'f'

example : isFloatSuffix "f16" = true ∧ isFloatSuffix "s16" = false := by decide

end IssueTiming
