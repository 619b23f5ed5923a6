import IssueTiming.Proofs.Assembly.OperandSyntax

/-!
# The syntax of an address

An address is a base register in brackets, with an optional offset beside it. A
write-back mark or an increment may follow the brackets. Of each part it is shown
that its reader accepts the texts of the syntax and no others.
-/

namespace IssueTiming.Assembly

open Text

/-- A `#` and an offset after it, with blanks around both. -/
structure OffsetText (offset : String) (text : List Char) : Prop where
  nonempty : offset ≠ ""
  trimmed : Trimmed offset.toList
  parts : ∃ before after, Blank before ∧ Padded offset.toList after ∧
    text = before ++ '#' :: after

/-- What stands between the brackets of an address. -/
inductive InsideText (base : List Char) : Option String → List Char → Prop
  | bare {text : List Char} : Padded base text → InsideText base none text
  | offset {offset : String} {text rest : List Char} :
      Padded base text → OffsetText offset rest →
      InsideText base (some offset) (text ++ ',' :: rest)

/-- What stands after the brackets of an address: nothing, a write-back mark or
an increment. -/
inductive AfterText : Bool → Option String → List Char → Prop
  | nothing {text : List Char} : Blank text → AfterText false none text
  | writeback {text : List Char} : Padded ['!'] text → AfterText true none text
  | increment {offset : String} {gap rest : List Char} :
      Blank gap → OffsetText offset rest → AfterText false (some offset) (gap ++ ',' :: rest)

/-! ## Offsets -/

theorem OffsetText.append_right {offset : String} {text right : List Char}
    (written : OffsetText offset text) (blank : Blank right) :
    OffsetText offset (text ++ right) := by
  rcases written with
    ⟨nonempty, trimmed, before, after, beforeBlank, ⟨gap, rest, gapBlank, restBlank, rfl⟩, rfl⟩
  refine ⟨nonempty, trimmed, before, _, beforeBlank,
    ⟨gap, rest ++ right, gapBlank, by simp [restBlank, blank], rfl⟩, by simp⟩

/-- Trimming a text that ends in an offset keeps the offset. -/
theorem OffsetText.trim_cons {head : Char} {offset : String} {text : List Char}
    (first : isBlank head = false) (written : OffsetText offset text) :
    ∃ core, trim (head :: text) = head :: core ∧ OffsetText offset core := by
  rcases written with
    ⟨nonempty, trimmed, before, after, beforeBlank, ⟨gap, rest, gapBlank, restBlank, rfl⟩, rfl⟩
  refine ⟨before ++ '#' :: gap ++ offset.toList, ?_, nonempty, trimmed, before,
    gap ++ offset.toList, beforeBlank, ⟨gap, [], gapBlank, blank_nil, by simp⟩, by simp⟩
  have nonemptyList : offset.toList ≠ [] := by simpa using nonempty
  simpa using trim_cons_append (before ++ '#' :: gap) first nonemptyList trimmed restBlank

theorem OffsetText.offset_isInfix {offset : String} {text : List Char}
    (written : OffsetText offset text) : offset.toList <:+: text := by
  rcases written with ⟨-, -, before, after, -, ⟨gap, rest, -, -, rfl⟩, rfl⟩
  exact ⟨before ++ '#' :: gap, rest, by simp⟩

theorem readImmediate_eq_ok_iff (text : List Char) (offset : String) :
    readImmediate text = .ok offset ↔ OffsetText offset text := by
  constructor
  · intro read
    unfold readImmediate at read
    split at read
    · next rest hash =>
      rcases padded_trim text with ⟨left, right, leftBlank, rightBlank, equal⟩
      rw [hash] at equal
      dsimp only at read
      split at read
      · cases read
      next visible =>
      rcases Except.ok.inj read with rfl
      rcases padded_trim rest with ⟨inner, outer, innerBlank, outerBlank, restEqual⟩
      refine ⟨?_, by simpa using trimmed_trim rest, left, rest ++ right, leftBlank, ?_, by
        simpa using equal⟩
      · simpa [List.isEmpty_iff] using visible
      · refine ⟨inner, outer ++ right, innerBlank, by simp [outerBlank, rightBlank], ?_⟩
        simp only [String.toList_ofList, ← List.append_assoc, ← restEqual]
    · cases read
  · intro written
    rcases written with
      ⟨nonempty, trimmed, before, after, beforeBlank, ⟨gap, rest, gapBlank, restBlank, rfl⟩,
      rfl⟩
    have nonemptyList : offset.toList ≠ [] := by simpa using nonempty
    have outer : trim (before ++ '#' :: (gap ++ offset.toList ++ rest)) =
        '#' :: (gap ++ offset.toList) := by
      rw [trim_append_of_blank beforeBlank]
      exact trim_cons_append gap rfl nonemptyList trimmed restBlank
    have inner : trim (gap ++ offset.toList) = offset.toList := by
      rw [trim_append_of_blank gapBlank, trimmed.trim_eq]
    simp only [readImmediate, outer, inner]
    simp [nonempty]

/-! ## Inside the brackets -/

theorem InsideText.offsetText {base inside : List Char} {offset : String}
    (written : InsideText base (some offset) inside) :
    ∃ rest, rest <:+ inside ∧ OffsetText offset rest := by
  cases written with
  | @offset value text rest padded immediate => exact ⟨rest, ⟨text ++ [','], by simp⟩, immediate⟩

theorem InsideText.closing_not_mem {base inside : List Char} {preIndex : Option String}
    (written : InsideText base preIndex inside) (identifier : isIdentifier base = true)
    (noClosing : ∀ offset ∈ preIndex, ']' ∉ offset.toList) : ']' ∉ inside := by
  have inBase := not_mem_of_isIdentifier identifier (show isIdentifierPart ']' = false from rfl)
  cases written with
  | bare padded => exact padded.not_mem rfl inBase
  | @offset value text rest padded immediate =>
      rcases immediate with ⟨-, -, before, after, beforeBlank, offset, rfl⟩
      have inBefore : ']' ∉ before := beforeBlank.not_mem rfl
      have inAfter := offset.not_mem (by decide) (noClosing value rfl)
      simp [padded.not_mem (by decide) inBase, inBefore, inAfter]

theorem InsideText.offset_closed {base inside : List Char} {preIndex : Option String}
    (written : InsideText base preIndex inside) (closed : ']' ∉ inside) :
    ∀ offset ∈ preIndex, ']' ∉ offset.toList := by
  intro offset same
  rcases same with rfl
  intro inOffset
  rcases written.offsetText with ⟨rest, suffix, offsetText⟩
  exact closed (suffix.subset (offsetText.offset_isInfix.subset inOffset))

theorem readInside_eq_ok_iff (inside base : List Char) (preIndex : Option String) :
    readInside inside = .ok (base, preIndex) ↔
      isIdentifier base = true ∧ InsideText base preIndex inside := by
  constructor
  · intro read
    unfold readInside at read
    split at read
    · next uncut =>
      rcases (bind_eq_ok_iff _ _ _).mp read with ⟨⟨⟩, checked, result⟩
      rcases Prod.mk.inj (Except.ok.inj result) with ⟨rfl, rfl⟩
      exact ⟨by simpa using (checkTokens_eq_ok_iff _).mp checked, .bare (padded_trim inside)⟩
    · next first offset cut =>
      rcases (bind_eq_ok_iff _ _ _).mp read with ⟨value, immediate, read⟩
      rcases (bind_eq_ok_iff _ _ _).mp read with ⟨⟨⟩, checked, result⟩
      rcases Prod.mk.inj (Except.ok.inj result) with ⟨rfl, rfl⟩
      rcases (cut?_char_eq_some_iff _ _ _).mp cut with ⟨-, rfl⟩
      exact ⟨by simpa using (checkTokens_eq_ok_iff _).mp checked,
        .offset (padded_trim first) ((readImmediate_eq_ok_iff _ _).mp immediate)⟩
  · intro parts
    rcases parts with ⟨identifier, written⟩
    have noComma := not_mem_of_isIdentifier identifier (show isIdentifierPart ',' = false from rfl)
    have trimmed := (blankless_of_isIdentifier identifier).trimmed
    have checked : checkTokens [base] = .ok () := (checkTokens_eq_ok_iff _).mpr (by simpa)
    cases written with
    | bare padded =>
        have uncut := (cut?_char_eq_none_iff inside).mpr (padded.not_mem rfl noComma)
        simp only [readInside, uncut, padded.trim_eq trimmed, checked]
        rfl
    | @offset value text rest padded immediate =>
        have cut := (cut?_char_eq_some_iff (text ++ ',' :: rest) text rest).mpr
          ⟨padded.not_mem rfl noComma, rfl⟩
        simp only [readInside, cut, padded.trim_eq trimmed, checked,
          (readImmediate_eq_ok_iff _ _).mpr immediate]
        rfl

/-! ## After the brackets -/

theorem AfterText.offsetText {writeback : Bool} {after : List Char} {offset : String}
    (written : AfterText writeback (some offset) after) :
    writeback = false ∧ ∃ rest, rest <:+ after ∧ OffsetText offset rest := by
  cases written with
  | @increment value gap rest blank immediate =>
      exact ⟨rfl, rest, ⟨gap ++ [','], by simp⟩, immediate⟩

theorem readIncrement_eq_ok_iff (text : List Char) (postIndex : Option String) :
    readIncrement text = .ok postIndex ↔
      (text = [] ∧ postIndex = none) ∨
        ∃ rest offset, text = ',' :: rest ∧ postIndex = some offset ∧ OffsetText offset rest := by
  fun_cases readIncrement text with
  | case1 => simp [eq_comm]
  | case2 rest =>
      rw [map_eq_ok_iff]
      constructor
      · intro found
        rcases found with ⟨offset, read, rfl⟩
        exact .inr ⟨rest, offset, rfl, rfl, (readImmediate_eq_ok_iff _ _).mp read⟩
      · intro parts
        rcases parts with ⟨empty, -⟩ | ⟨rest, offset, equal, rfl, written⟩
        · cases empty
        · rcases (List.cons.inj equal).2 with rfl
          exact ⟨offset, (readImmediate_eq_ok_iff _ _).mpr written, rfl⟩
  | case3 text nonempty noComma =>
      apply iff_of_false (by simp)
      intro parts
      rcases parts with ⟨empty, -⟩ | ⟨rest, offset, equal, -⟩
      · exact nonempty empty
      · exact noComma rest equal

theorem readAfter_eq_ok_iff (after : List Char) (writeback : Bool) (postIndex : Option String) :
    readAfter after = .ok (writeback, postIndex) ↔ AfterText writeback postIndex after := by
  constructor
  · intro read
    rcases padded_trim after with ⟨left, right, leftBlank, rightBlank, equal⟩
    unfold readAfter at read
    split at read
    · next rest mark =>
      rcases (bind_eq_ok_iff _ _ _).mp read with ⟨found, increment, read⟩
      rw [readIncrement_eq_ok_iff] at increment
      rcases increment with ⟨empty, rfl⟩ | ⟨-, offset, -, rfl, -⟩
      · rcases Prod.mk.inj (Except.ok.inj read) with ⟨rfl, rfl⟩
        have restBlank := (trim_eq_nil_iff rest).mp empty
        refine .writeback ⟨left, rest ++ right, leftBlank, by simp [restBlank, rightBlank], ?_⟩
        rw [equal, mark]
        simp
      · cases read
    · rcases (map_eq_ok_iff _ _ _).mp read with ⟨found, increment, result⟩
      rcases Prod.mk.inj result with ⟨rfl, rfl⟩
      rcases (readIncrement_eq_ok_iff _ _).mp increment with
        ⟨empty, rfl⟩ | ⟨rest, offset, comma, rfl, written⟩
      · exact .nothing ((trim_eq_nil_iff after).mp empty)
      · rw [equal, comma]
        simpa using AfterText.increment leftBlank (written.append_right rightBlank)
  · intro written
    cases written with
    | nothing blank =>
        simp only [readAfter, (trim_eq_nil_iff after).mpr blank]
        rfl
    | writeback padded =>
        have nonblank : isBlank '!' = false := rfl
        have marked : trim after = ['!'] :=
          padded.trim_eq ⟨by simpa using nonblank, by simpa using nonblank⟩
        simp only [readAfter, marked]
        rfl
    | @increment offset gap rest blank written =>
        rcases written.trim_cons (show isBlank ',' = false from rfl) with
          ⟨core, trimmed, coreWritten⟩
        have read : readIncrement (',' :: core) = .ok (some offset) :=
          (readIncrement_eq_ok_iff _ _).mpr (.inr ⟨core, offset, rfl, rfl, coreWritten⟩)
        simp only [readAfter, trim_append_of_blank blank, trimmed]
        change (readIncrement (',' :: core)).map _ = _
        rw [read]
        rfl

/-! ## The brackets -/

theorem splitBrackets_eq_ok_iff (text : List Char) (parts : Bracketed) :
    splitBrackets text = .ok parts ↔
      '[' ∉ parts.before ∧ ']' ∉ parts.inside ∧
        text = parts.before ++ '[' :: parts.inside ++ ']' :: parts.after := by
  constructor
  · intro split
    unfold splitBrackets at split
    split at split
    · cases split
    next before rest opened =>
    split at split
    · cases split
    next inside after closed =>
    rcases Except.ok.inj split with rfl
    rcases (cut?_char_eq_some_iff _ _ _).mp opened with ⟨noOpening, rfl⟩
    rcases (cut?_char_eq_some_iff _ _ _).mp closed with ⟨noClosing, rfl⟩
    exact ⟨noOpening, noClosing, by simp⟩
  · intro parts
    rcases parts with ⟨noOpening, noClosing, rfl⟩
    have opened := (cut?_char_eq_some_iff
      (parts.before ++ '[' :: parts.inside ++ ']' :: parts.after) parts.before
      (parts.inside ++ ']' :: parts.after)).mpr ⟨noOpening, by simp⟩
    have closed := (cut?_char_eq_some_iff (parts.inside ++ ']' :: parts.after) parts.inside
      parts.after).mpr ⟨noClosing, rfl⟩
    simp only [splitBrackets, opened, closed]

end IssueTiming.Assembly
