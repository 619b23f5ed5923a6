import IssueTiming.Assembly.Operand
import IssueTiming.Proofs.Outcome
import IssueTiming.Proofs.Text.Separation
import IssueTiming.Proofs.Text.Words

/-!
# The syntax of operands

How the parts of an operand text are written, part by part, beside what the
reader of the part answers: it succeeds on the texts of the syntax and on no
others, with the words the text was written from.
-/

namespace IssueTiming.Assembly

open Text

/-! ## Tokens -/

theorem checkTokens_eq_ok_iff (tokens : List (List Char)) :
    checkTokens tokens = .ok () ↔ ∀ token ∈ tokens, isIdentifier token = true := by
  unfold checkTokens
  cases found : tokens.find? fun token => !isIdentifier token with
  | none =>
      rw [List.find?_eq_none] at found
      simpa using found
  | some token =>
      have member := List.mem_of_find?_eq_some found
      have wrong := List.find?_some found
      simp only [reduceCtorEq, false_iff, not_forall]
      exact ⟨token, member, by simpa using wrong⟩

/-- A text is always written from its own tokens. -/
theorem separated_operandTokens (text : List Char) :
    Separated ',' (operandTokens text) text := by
  unfold operandTokens
  split
  next empty => exact .none ((trim_eq_nil_iff text).mp (List.isEmpty_iff.mp empty))
  next => exact separated_fields ',' text

theorem operandTokens_eq {tokens : List (List Char)} {text : List Char}
    (identifiers : ∀ token ∈ tokens, isIdentifier token = true)
    (separated : Separated ',' tokens text) : operandTokens text = tokens := by
  unfold operandTokens
  cases tokens with
  | nil =>
      cases separated with
      | none blank => simp [(trim_eq_nil_iff text).mpr blank]
  | cons token tokens =>
      have visible : ¬Blank text := by
        intro blank
        have identifier := identifiers token (by simp)
        rcases List.exists_mem_of_ne_nil _ (ne_nil_of_isIdentifier identifier) with
          ⟨character, member⟩
        have nonblank := blankless_of_isIdentifier identifier character member
        simp [blank character (separated.subset (by simp) member)] at nonblank
      rw [if_neg (by simpa using visible)]
      exact separated.fields_eq (by simp) rfl
        (fun word member => (blankless_of_isIdentifier (identifiers word member)).trimmed)
        fun word member => not_mem_of_isIdentifier (identifiers word member) rfl

theorem map_trim_fields_append_left {left : List Char} (blank : Blank left) (text : List Char) :
    (fields ',' (left ++ text)).map trim = (fields ',' text).map trim := by
  induction left with
  | nil => rfl
  | cons head left induction =>
      rcases (blank_cons_iff head left).mp blank with ⟨headBlank, leftBlank⟩
      have different : head ≠ ',' := by
        intro isComma
        subst head
        exact absurd headBlank (by decide)
      rw [← induction leftBlank, List.cons_append, fields, if_neg different]
      cases parts : fields ',' (left ++ text) with
      | nil => exact absurd parts (fields_ne_nil ',' _)
      | cons first rest =>
          have trimmed := trim_append_of_blank (show Blank [head] by simpa using headBlank) first
          simpa using trimmed

theorem operandTokens_append_left {left : List Char} (blank : Blank left) (text : List Char) :
    operandTokens (left ++ text) = operandTokens text := by
  simp only [operandTokens, trim_append_of_blank blank, map_trim_fields_append_left blank]

/-! ## The tokens before an address -/

theorem leadingTokens_append_left {left : List Char} (blank : Blank left) (text : List Char) :
    leadingTokens (left ++ text) = leadingTokens text := by
  simp only [leadingTokens, trim_append_of_blank blank]

theorem leadingTokens_eq {tokens : List (List Char)} {before : List Char}
    (identifiers : ∀ token ∈ tokens, isIdentifier token = true)
    (followed : Followed ',' tokens before) : leadingTokens before = .ok tokens := by
  by_cases nonempty : tokens = []
  · subst nonempty
    cases followed with
    | nil blank => simp [leadingTokens, (trim_eq_nil_iff before).mpr blank]
  rcases (followed_iff nonempty before).mp followed with ⟨body, right, separated, blank, rfl⟩
  rcases (trimLeft_eq_iff body (trimLeft body)).mp rfl with ⟨head, left, leftBlank, split⟩
  generalize trimLeft body = core at head split
  subst split
  have comma : isBlank ',' = false := rfl
  have trimmed : trim (left ++ core ++ ',' :: right) = core ++ [','] := by
    refine Padded.trim_eq ⟨left, right, leftBlank, blank, by simp⟩ ⟨?_, by simp [comma]⟩
    cases core with
    | nil => simp [comma]
    | cons first core => simpa using head
  have tokensEq : operandTokens core = tokens := by
    rw [← operandTokens_append_left leftBlank]
    exact operandTokens_eq identifiers separated
  simp only [leadingTokens, trimmed]
  simp [tokensEq]

theorem followed_of_leadingTokens {tokens : List (List Char)} {before : List Char}
    (nonempty : tokens ≠ []) (read : leadingTokens before = .ok tokens) :
    Followed ',' tokens before := by
  rw [followed_iff nonempty]
  simp only [leadingTokens] at read
  split at read
  · exact absurd (Except.ok.inj read).symm nonempty
  split at read
  · next ends =>
    rcases Except.ok.inj read with rfl
    rcases padded_trim before with ⟨left, right, leftBlank, rightBlank, equal⟩
    have comma := List.dropLast_append_getLast? _ ends
    refine ⟨left ++ (trim before).dropLast, right,
      .append_left leftBlank (separated_operandTokens _), rightBlank, ?_⟩
    calc before = left ++ trim before ++ right := equal
      _ = left ++ ((trim before).dropLast ++ [',']) ++ right := by rw [comma]
      _ = left ++ (trim before).dropLast ++ ',' :: right := by simp
  · cases read

end IssueTiming.Assembly
