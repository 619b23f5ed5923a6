/-!
# Cutting a text at a separator

`cut?` divides a text at the first character that satisfies a test, and `fields`
at every occurrence of one character. A separator belongs to no part, so the
parts and the separators together give the text back.
-/

namespace IssueTiming.Text

/-- The parts before and after the first character that satisfies `stop`. -/
def cut? (stop : Char → Bool) : List Char → Option (List Char × List Char)
  | [] => none
  | head :: tail =>
      if stop head then some ([], tail)
      else (cut? stop tail).map fun (before, after) => (head :: before, after)

example : cut? (· == '.') "vmul.s32".toList = some ("vmul".toList, "s32".toList) := by decide

/-- A cut happens at the first stopping character and nowhere else. -/
theorem cut?_eq_some_iff (stop : Char → Bool) (text before after : List Char) :
    cut? stop text = some (before, after) ↔
      ∃ separator, stop separator = true ∧ (∀ character ∈ before, stop character = false) ∧
        text = before ++ separator :: after := by
  induction text generalizing before with
  | nil => simp [cut?]
  | cons head tail induction =>
      cases stopped : stop head with
      | true =>
          cases before with
          | nil =>
              simp only [cut?, stopped, if_true, List.nil_append, List.cons.injEq]
              grind
          | cons first before =>
              simp only [cut?, stopped, if_true, List.cons_append, List.cons.injEq]
              grind
      | false =>
          simp only [cut?, stopped, Bool.false_eq_true, if_false, Option.map_eq_some_iff,
            Prod.exists, Prod.mk.injEq]
          cases before with
          | nil => grind
          | cons first before => grind

/-- There is no cut exactly when no character stops one. -/
theorem cut?_eq_none_iff (stop : Char → Bool) (text : List Char) :
    cut? stop text = none ↔ ∀ character ∈ text, stop character = false := by
  induction text with
  | nil => simp [cut?]
  | cons head tail induction =>
      cases stopped : stop head <;> simp [cut?, stopped, induction]

/-- The parts between the occurrences of `separator`; always at least one. -/
def fields (separator : Char) : List Char → List (List Char)
  | [] => [[]]
  | head :: tail =>
      if head = separator then [] :: fields separator tail
      else
        match fields separator tail with
        | [] => [[head]]
        | first :: rest => (head :: first) :: rest

example : fields ',' "a,,b".toList = [['a'], [], ['b']] := by decide

example : fields ',' [] = [[]] := rfl

theorem fields_ne_nil (separator : Char) (text : List Char) :
    fields separator text ≠ [] := by
  cases text with
  | nil => simp [fields]
  | cons head tail =>
      simp only [fields]
      split
      · simp
      · split <;> simp

/-- Joining the fields with their separator gives the text back. -/
theorem intercalate_fields (separator : Char) (text : List Char) :
    List.intercalate [separator] (fields separator text) = text := by
  induction text with
  | nil => simp [fields, List.intercalate]
  | cons head tail induction =>
      simp only [fields]
      split
      next same =>
        subst same
        cases parts : fields head tail with
        | nil => exact absurd parts (fields_ne_nil head tail)
        | cons first rest =>
            rw [parts] at induction
            simpa [List.intercalate, List.intersperse] using induction
      next different =>
        cases parts : fields separator tail with
        | nil => exact absurd parts (fields_ne_nil separator tail)
        | cons first rest =>
            rw [parts] at induction
            cases rest <;> simp_all [List.intercalate, List.intersperse]

/-- The part after the last occurrence of `separator`, or the whole text. -/
def lastField (separator : Char) (text : List Char) : List Char :=
  (fields separator text).getLast (fields_ne_nil separator text)

example : lastField ',' "lr, start".toList = " start".toList := by decide

end IssueTiming.Text
