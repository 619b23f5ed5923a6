import IssueTiming.Text.Blank
import Mathlib.Data.List.Basic
import Mathlib.Data.List.TakeWhile

/-!
# Trimming

What `trim` leaves of a text is the only part of it that has no blank at either
end and nothing but blanks around it. Proofs about readers use this and never
the two passes that `trim` is made of.
-/

namespace IssueTiming.Text

/-- A text of blanks alone. -/
def Blank (text : List Char) : Prop :=
  ∀ character ∈ text, isBlank character = true

instance : DecidablePred Blank := fun text =>
  List.decidableBAll (fun character => isBlank character = true) text

/-- A text with no blank at either end. -/
structure Trimmed (text : List Char) : Prop where
  head : ∀ character ∈ text.head?, isBlank character = false
  last : ∀ character ∈ text.getLast?, isBlank character = false

/-- A text that is a given word with blanks around it. -/
def Padded (word text : List Char) : Prop :=
  ∃ left right, Blank left ∧ Blank right ∧ text = left ++ word ++ right

/-! ## Blanks -/

@[simp] theorem blank_nil : Blank [] := by
  simp [Blank]

@[simp] theorem blank_cons_iff (head : Char) (tail : List Char) :
    Blank (head :: tail) ↔ isBlank head = true ∧ Blank tail := by
  simp [Blank]

@[simp] theorem blank_append_iff (left right : List Char) :
    Blank (left ++ right) ↔ Blank left ∧ Blank right := by
  exact List.forall_mem_append

theorem blank_reverse_iff (text : List Char) : Blank text.reverse ↔ Blank text := by
  simp [Blank]

theorem Blank.not_mem {text : List Char} (blank : Blank text) {character : Char}
    (nonblank : isBlank character = false) : character ∉ text := by
  intro member
  simp [blank character member] at nonblank

theorem trimmed_nil : Trimmed [] :=
  ⟨by simp, by simp⟩

theorem Padded.refl (word : List Char) : Padded word word :=
  ⟨[], [], blank_nil, blank_nil, by simp⟩

/-! ## The two passes -/

theorem trimLeft_eq_iff (text rest : List Char) :
    trimLeft text = rest ↔
      (∀ character ∈ rest.head?, isBlank character = false) ∧
        ∃ left, Blank left ∧ text = left ++ rest := by
  constructor
  · intro same
    subst rest
    refine ⟨?_, text.takeWhile isBlank, ?_, ?_⟩
    · intro character first
      have stopped := List.head?_dropWhile_not isBlank text
      rw [show (text.dropWhile isBlank).head? = some character from first] at stopped
      exact stopped
    · intro character member
      exact List.mem_takeWhile_imp member
    · exact List.takeWhile_append_dropWhile.symm
  · intro divided
    rcases divided with ⟨first, left, blank, rfl⟩
    rw [trimLeft, List.dropWhile_append_of_pos blank]
    cases rest with
    | nil => rfl
    | cons head tail => exact List.dropWhile_cons_of_neg (by simp [first head rfl])

theorem trimRight_eq_iff (text rest : List Char) :
    trimRight text = rest ↔
      (∀ character ∈ rest.getLast?, isBlank character = false) ∧
        ∃ right, Blank right ∧ text = rest ++ right := by
  have mirrored : trimRight text = rest ↔ trimLeft text.reverse = rest.reverse := by
    rw [trimRight, trimLeft, List.reverse_eq_iff]
  rw [mirrored, trimLeft_eq_iff, List.head?_reverse]
  refine and_congr_right fun _ => ⟨?_, ?_⟩
  · intro divided
    rcases divided with ⟨left, blank, equal⟩
    refine ⟨left.reverse, (blank_reverse_iff left).mpr blank, ?_⟩
    rw [← List.reverse_reverse text, equal, List.reverse_append, List.reverse_reverse]
  · intro divided
    rcases divided with ⟨right, blank, rfl⟩
    exact ⟨right.reverse, (blank_reverse_iff right).mpr blank, List.reverse_append⟩

/-! ## Trimming as a whole -/

/-- A text is trimmed to the one word without blanks at its ends that it pads. -/
theorem trim_eq_iff (text word : List Char) :
    trim text = word ↔ Trimmed word ∧ Padded word text := by
  constructor
  · intro trimmed
    rcases (trimRight_eq_iff _ _).mp trimmed with ⟨last, right, rightBlank, keptLeft⟩
    rcases (trimLeft_eq_iff _ _).mp keptLeft with ⟨head, left, leftBlank, rfl⟩
    refine ⟨⟨fun character first => ?_, last⟩, left, right, leftBlank, rightBlank, by simp⟩
    exact head character (by simp [List.head?_append, Option.mem_def.mp first])
  · intro parts
    rcases parts with ⟨⟨head, last⟩, left, right, leftBlank, rightBlank, rfl⟩
    refine (trimRight_eq_iff _ _).mpr ⟨last, ?_⟩
    cases word with
    | nil =>
        refine ⟨[], blank_nil, (trimLeft_eq_iff _ _).mpr ⟨by simp, left ++ right, ?_, by simp⟩⟩
        exact (blank_append_iff left right).mpr ⟨leftBlank, rightBlank⟩
    | cons first rest =>
        refine ⟨right, rightBlank, (trimLeft_eq_iff _ _).mpr ⟨?_, left, leftBlank, by simp⟩⟩
        simpa using head

theorem trimmed_trim (text : List Char) : Trimmed (trim text) :=
  ((trim_eq_iff text _).mp rfl).1

theorem padded_trim (text : List Char) : Padded (trim text) text :=
  ((trim_eq_iff text _).mp rfl).2

theorem Padded.trim_eq {word text : List Char} (padded : Padded word text)
    (trimmed : Trimmed word) : trim text = word :=
  (trim_eq_iff text word).mpr ⟨trimmed, padded⟩

theorem Trimmed.trim_eq {text : List Char} (trimmed : Trimmed text) : trim text = text :=
  (Padded.refl text).trim_eq trimmed

@[simp] theorem trim_eq_nil_iff (text : List Char) : trim text = [] ↔ Blank text := by
  rw [trim_eq_iff]
  constructor
  · intro parts
    rcases parts with ⟨-, left, right, leftBlank, rightBlank, rfl⟩
    simp [leftBlank, rightBlank]
  · intro blank
    exact ⟨trimmed_nil, text, [], blank, blank_nil, by simp⟩

/-- Blanks before a text do not show in what is left of it. -/
theorem trim_append_of_blank {left : List Char} (blank : Blank left) (text : List Char) :
    trim (left ++ text) = trim text := by
  rcases padded_trim text with ⟨inner, right, innerBlank, rightBlank, equal⟩
  refine Padded.trim_eq ⟨left ++ inner, right, ?_, rightBlank, ?_⟩ (trimmed_trim text)
  · simp [blank, innerBlank]
  · rw [List.append_assoc, List.append_assoc, ← List.append_assoc inner, ← equal]

/-- Nor do blanks behind it. -/
theorem trim_append_of_blank_right {right : List Char} (blank : Blank right) (text : List Char) :
    trim (text ++ right) = trim text := by
  rcases padded_trim text with ⟨left, inner, leftBlank, innerBlank, equal⟩
  refine Padded.trim_eq ⟨left, inner ++ right, leftBlank, ?_, ?_⟩ (trimmed_trim text)
  · simp [innerBlank, blank]
  · rw [← List.append_assoc, ← equal]

/-- Trimming a text that begins with no blank ends it after its last word. -/
theorem trim_cons_append {head : Char} (gap : List Char) {word right : List Char}
    (first : isBlank head = false) (nonempty : word ≠ []) (trimmed : Trimmed word)
    (blank : Blank right) : trim (head :: (gap ++ word ++ right)) = head :: (gap ++ word) := by
  refine Padded.trim_eq ⟨[], right, blank_nil, blank, by simp⟩ ⟨by simpa using first, ?_⟩
  rw [← List.cons_append, List.getLast?_append_of_ne_nil _ nonempty]
  exact trimmed.last

/-- What stands between two trimmed words does not show at the ends of the whole. -/
theorem Trimmed.join {left right : List Char} (middle : List Char) (leftTrimmed : Trimmed left)
    (rightTrimmed : Trimmed right) (leftNonempty : left ≠ []) (rightNonempty : right ≠ []) :
    Trimmed (left ++ middle ++ right) := by
  constructor
  · rw [List.append_assoc, List.head?_append_of_ne_nil _ leftNonempty]
    exact leftTrimmed.head
  · rw [List.getLast?_append_of_ne_nil _ rightNonempty]
    exact rightTrimmed.last

/-- The end of a trimmed text has blanks at most in front. -/
theorem Trimmed.exists_eq_append_trim {front text : List Char}
    (trimmed : Trimmed (front ++ text)) : ∃ left, Blank left ∧ text = left ++ trim text := by
  rcases padded_trim text with ⟨left, right, leftBlank, rightBlank, padded⟩
  have noRight : right = [] := by
    by_contra visible
    have last : (front ++ text).getLast? = some (right.getLast visible) := by
      rw [padded, ← List.append_assoc, List.getLast?_append_of_ne_nil _ visible,
        List.getLast?_eq_some_getLast visible]
    have nonblank := trimmed.last _ last
    simp [rightBlank _ (List.getLast_mem visible)] at nonblank
  refine ⟨left, leftBlank, ?_⟩
  rw [noRight, List.append_nil] at padded
  exact padded

/-! ## What is seen of a text -/

/-- How many characters of a text are not blank. -/
def visibleCount (text : List Char) : Nat :=
  text.countP fun character => !isBlank character

@[simp] theorem visibleCount_append (left right : List Char) :
    visibleCount (left ++ right) = visibleCount left + visibleCount right :=
  List.countP_append

@[simp] theorem visibleCount_eq_zero_iff (text : List Char) :
    visibleCount text = 0 ↔ Blank text := by
  simp [visibleCount, List.countP_eq_zero, Blank]

@[simp] theorem visibleCount_trim (text : List Char) :
    visibleCount (trim text) = visibleCount text := by
  rcases padded_trim text with ⟨left, right, leftBlank, rightBlank, equal⟩
  have noLeft := (visibleCount_eq_zero_iff left).mpr leftBlank
  have noRight := (visibleCount_eq_zero_iff right).mpr rightBlank
  conv_rhs => rw [equal]
  simp only [visibleCount_append, noLeft, noRight, Nat.zero_add, Nat.add_zero]

end IssueTiming.Text
