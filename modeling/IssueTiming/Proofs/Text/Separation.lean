import IssueTiming.Proofs.Text.Trimming
import IssueTiming.Text.Cut

/-!
# Words and separators

Two ways to write a list of words with one character between them: `Separated`
puts it between neighbours, `Followed` after every word. Blanks may stand around
each word. `fields` and `trim` take the words of a separated text apart again.
-/

namespace IssueTiming.Text

/-- The words with one separator between neighbours. No word at all is written
as a blank text. -/
inductive Separated (separator : Char) : List (List Char) → List Char → Prop
  | none {text : List Char} : Blank text → Separated separator [] text
  | last {word text : List Char} : Padded word text → Separated separator [word] text
  | more {word next : List Char} {words : List (List Char)} {text rest : List Char} :
      Padded word text → Separated separator (next :: words) rest →
      Separated separator (word :: next :: words) (text ++ separator :: rest)

/-- The words with a separator after each of them. -/
inductive Followed (separator : Char) : List (List Char) → List Char → Prop
  | nil {text : List Char} : Blank text → Followed separator [] text
  | cons {word : List Char} {words : List (List Char)} {text rest : List Char} :
      Padded word text → Followed separator words rest →
      Followed separator (word :: words) (text ++ separator :: rest)

variable {separator : Char}

/-! ## Characters of a written list -/

theorem Padded.subset {word text : List Char} (padded : Padded word text) : word ⊆ text := by
  rcases padded with ⟨left, right, -, -, rfl⟩
  intro character member
  simp [member]

theorem Padded.not_mem {character : Char} (nonblank : isBlank character = false)
    {word text : List Char} (padded : Padded word text) (absent : character ∉ word) :
    character ∉ text := by
  rcases padded with ⟨left, right, leftBlank, rightBlank, rfl⟩
  simp [absent, leftBlank.not_mem nonblank, rightBlank.not_mem nonblank]

theorem Padded.append_left {left word text : List Char} (blank : Blank left)
    (padded : Padded word text) : Padded word (left ++ text) := by
  rcases padded with ⟨inner, right, innerBlank, rightBlank, rfl⟩
  exact ⟨left ++ inner, right, by simp [blank, innerBlank], rightBlank, by simp⟩

theorem Separated.subset {words : List (List Char)} {text word : List Char}
    (separated : Separated separator words text) (member : word ∈ words) : word ⊆ text := by
  induction separated with
  | none blank => cases member
  | last padded =>
      rw [List.mem_singleton.mp member]
      exact padded.subset
  | more padded rest induction =>
      rcases List.mem_cons.mp member with rfl | later
      · exact List.subset_append_of_subset_left _ padded.subset
      · exact List.subset_append_of_subset_right _
          (List.subset_cons_of_subset _ (induction later))

theorem Separated.not_mem {character : Char} (nonblank : isBlank character = false)
    (different : character ≠ separator) {words : List (List Char)} {text : List Char}
    (separated : Separated separator words text) (absent : ∀ word ∈ words, character ∉ word) :
    character ∉ text := by
  induction separated with
  | none blank => exact blank.not_mem nonblank
  | last padded => exact padded.not_mem nonblank (absent _ (by simp))
  | more padded rest induction =>
      have inText := padded.not_mem nonblank (absent _ (by simp))
      have inRest := induction fun word member => absent word (List.mem_cons_of_mem _ member)
      simp [inText, different, inRest]

theorem Followed.not_mem {character : Char} (nonblank : isBlank character = false)
    (different : character ≠ separator) {words : List (List Char)} {text : List Char}
    (followed : Followed separator words text) (absent : ∀ word ∈ words, character ∉ word) :
    character ∉ text := by
  induction followed with
  | nil blank => exact blank.not_mem nonblank
  | cons padded rest induction =>
      have inText := padded.not_mem nonblank (absent _ (by simp))
      have inRest := induction fun word member => absent word (List.mem_cons_of_mem _ member)
      simp [inText, different, inRest]

/-! ## Blanks in front -/

theorem Separated.append_left {left : List Char} (blank : Blank left)
    {words : List (List Char)} {text : List Char} (separated : Separated separator words text) :
    Separated separator words (left ++ text) := by
  cases separated with
  | none empty => exact .none ((blank_append_iff left text).mpr ⟨blank, empty⟩)
  | last padded => exact .last (padded.append_left blank)
  | more padded rest =>
      rw [← List.append_assoc]
      exact .more (padded.append_left blank) rest

theorem Followed.append_left {left : List Char} (blank : Blank left)
    {words : List (List Char)} {text : List Char} (followed : Followed separator words text) :
    Followed separator words (left ++ text) := by
  cases followed with
  | nil empty => exact .nil ((blank_append_iff left text).mpr ⟨blank, empty⟩)
  | cons padded rest =>
      rw [← List.append_assoc]
      exact .cons (padded.append_left blank) rest

/-- A list with a separator after every word is the separated list and one more
separator. -/
theorem followed_iff {words : List (List Char)} (nonempty : words ≠ []) (text : List Char) :
    Followed separator words text ↔
      ∃ body right, Separated separator words body ∧ Blank right ∧
        text = body ++ separator :: right := by
  constructor
  · intro followed
    induction followed with
    | nil blank => exact absurd rfl nonempty
    | @cons word words text rest padded followed induction =>
        cases words with
        | nil =>
            cases followed with
            | nil blank => exact ⟨text, rest, .last padded, blank, rfl⟩
        | cons next words =>
            rcases induction (by simp) with ⟨body, right, separated, blank, rfl⟩
            exact ⟨text ++ separator :: body, right, .more padded separated, blank, by simp⟩
  · intro parts
    rcases parts with ⟨body, right, separated, blank, rfl⟩
    induction separated with
    | none empty => exact absurd rfl nonempty
    | last padded => exact .cons padded (.nil blank)
    | more padded separated induction =>
        rw [List.append_assoc]
        exact .cons padded (induction (by simp))

/-! ## Cutting at one character -/

theorem cut?_char_eq_some_iff (text before after : List Char) :
    cut? (· == separator) text = some (before, after) ↔
      separator ∉ before ∧ text = before ++ separator :: after := by
  rw [cut?_eq_some_iff]
  constructor
  · intro divided
    rcases divided with ⟨found, same, kept, rfl⟩
    have isSeparator : found = separator := by simpa using same
    subst found
    exact ⟨fun member => by simpa using kept separator member, rfl⟩
  · intro divided
    rcases divided with ⟨absent, rfl⟩
    refine ⟨separator, by simp, fun character member => ?_, rfl⟩
    simpa using fun same : character = separator => absent (same ▸ member)

theorem cut?_char_eq_none_iff (text : List Char) :
    cut? (· == separator) text = none ↔ separator ∉ text := by
  rw [cut?_eq_none_iff]
  constructor
  · intro kept member
    simpa using kept separator member
  · intro absent character member
    simpa using fun same : character = separator => absent (same ▸ member)

/-! ## Taking a separated text apart -/

/-- The first field ends at the first separator. -/
theorem fields_eq_cut? (separator : Char) (text : List Char) :
    fields separator text =
      match cut? (· == separator) text with
      | none => [text]
      | some (before, after) => before :: fields separator after := by
  induction text with
  | nil => rfl
  | cons head tail induction =>
      by_cases same : head = separator
      · simp [fields, cut?, same]
      · simp only [fields, same, if_false, cut?, beq_iff_eq]
        rw [induction]
        cases cut? (· == separator) tail with
        | none => rfl
        | some parts => rfl

theorem fields_of_not_mem {text : List Char} (absent : separator ∉ text) :
    fields separator text = [text] := by
  rw [fields_eq_cut?, (cut?_char_eq_none_iff text).mpr absent]

theorem fields_append {first : List Char} (absent : separator ∉ first) (rest : List Char) :
    fields separator (first ++ separator :: rest) = first :: fields separator rest := by
  rw [fields_eq_cut?, (cut?_char_eq_some_iff _ first rest).mpr ⟨absent, rfl⟩]

/-- Every text is the separated list of its trimmed fields. -/
theorem separated_fields (separator : Char) (text : List Char) :
    Separated separator ((fields separator text).map trim) text := by
  induction parts : fields separator text generalizing text with
  | nil => exact absurd parts (fields_ne_nil separator text)
  | cons first rest induction =>
      rw [fields_eq_cut?] at parts
      split at parts
      · rcases List.cons.inj parts with ⟨rfl, rfl⟩
        exact .last (padded_trim text)
      · next before after cut =>
        rcases List.cons.inj parts with ⟨rfl, remaining⟩
        rcases (cut?_char_eq_some_iff _ _ _).mp cut with ⟨-, rfl⟩
        have separated := induction after remaining
        cases rest with
        | nil => exact absurd remaining (fields_ne_nil separator after)
        | cons next rest => exact .more (padded_trim before) separated

/-- A separated list of trimmed words has these words as its trimmed fields. -/
theorem Separated.fields_eq {words : List (List Char)} {text : List Char}
    (separated : Separated separator words text) (nonempty : words ≠ [])
    (nonblank : isBlank separator = false) (trimmed : ∀ word ∈ words, Trimmed word)
    (absent : ∀ word ∈ words, separator ∉ word) :
    (fields separator text).map trim = words := by
  induction separated with
  | none blank => exact absurd rfl nonempty
  | last padded =>
      rw [fields_of_not_mem (padded.not_mem nonblank (absent _ (by simp)))]
      simp [padded.trim_eq (trimmed _ (by simp))]
  | more padded rest induction =>
      rw [fields_append (padded.not_mem nonblank (absent _ (by simp))), List.map_cons,
        padded.trim_eq (trimmed _ (by simp)),
        induction (by simp) (fun word member => trimmed word (List.mem_cons_of_mem _ member))
          fun word member => absent word (List.mem_cons_of_mem _ member)]

theorem not_mem_of_mem_fields {text field : List Char} (member : field ∈ fields separator text) :
    separator ∉ field := by
  induction parts : fields separator text generalizing text with
  | nil => exact absurd parts (fields_ne_nil separator text)
  | cons first rest induction =>
      have cutOff := parts
      rw [fields_eq_cut?] at cutOff
      rw [parts] at member
      split at cutOff
      · next uncut =>
        rcases List.cons.inj cutOff with ⟨rfl, rfl⟩
        rw [List.mem_singleton.mp member]
        exact (cut?_char_eq_none_iff _).mp uncut
      · next before after cut =>
        rcases List.cons.inj cutOff with ⟨rfl, remaining⟩
        rcases List.mem_cons.mp member with rfl | later
        · exact ((cut?_char_eq_some_iff _ _ _).mp cut).1
        · exact induction (remaining ▸ later) remaining

/-- The last field, without the blanks around it, is the last word of a separated
text. -/
theorem trim_lastField_eq_iff (nonblank : isBlank separator = false) (text word : List Char) :
    trim (lastField separator text) = word ↔
      ∃ words, Separated separator (words ++ [word]) text ∧
        ∀ each ∈ words ++ [word], Trimmed each ∧ separator ∉ each := by
  have nonempty := fields_ne_nil separator text
  constructor
  · intro last
    have divided : (fields separator text).map trim =
        (fields separator text).dropLast.map trim ++ [word] := by
      rw [← last, lastField, ← List.map_singleton, ← List.map_append,
        List.dropLast_append_getLast]
    refine ⟨(fields separator text).dropLast.map trim, ?_, ?_⟩
    · rw [← divided]
      exact separated_fields separator text
    · intro each member
      rw [← divided] at member
      rcases List.mem_map.mp member with ⟨field, isField, rfl⟩
      have inside : trim field ⊆ field := (padded_trim field).subset
      exact ⟨trimmed_trim field, fun found => not_mem_of_mem_fields isField (inside found)⟩
  · intro written
    rcases written with ⟨words, separated, tidy⟩
    have divided := separated.fields_eq (by simp) nonblank (fun each member => (tidy each member).1)
      fun each member => (tidy each member).2
    have last := congrArg List.getLast? divided
    rw [List.getLast?_map, List.getLast?_eq_some_getLast nonempty] at last
    simpa [lastField] using last

/-! ## Writing a list -/

theorem separated_intercalate (separator : Char) (words : List (List Char)) :
    Separated separator words (List.intercalate [separator, ' '] words) := by
  induction words with
  | nil => exact .none (by simp)
  | cons word words induction =>
      cases words with
      | nil => simpa using Separated.last (Padded.refl word)
      | cons next words =>
          rw [List.intercalate_cons_cons, List.append_assoc]
          exact .more (Padded.refl word) (.append_left (show Blank [' '] by decide) induction)

/-- All but the last of the words that stand between separators are followed by one. -/
theorem exists_followed_intercalate (separator : Char) (words : List (List Char))
    (last : List Char) :
    ∃ before, Followed separator words before ∧
      List.intercalate [separator, ' '] (words ++ [last]) = before ++ last := by
  induction words with
  | nil => exact ⟨[], .nil blank_nil, by simp⟩
  | cons word words induction =>
      rcases induction with ⟨before, followed, equal⟩
      refine ⟨word ++ separator :: ' ' :: before, ?_, ?_⟩
      · exact .cons (Padded.refl word) (.append_left (show Blank [' '] by decide) followed)
      · rw [List.cons_append, List.intercalate_cons_of_ne_nil (by simp), equal]
        simp

end IssueTiming.Text
