import IssueTiming.Proofs.Assembly.AddressSyntax
import IssueTiming.Proofs.Assembly.Comments

/-!
# Reading operands

What an operand text says does not depend on the variant that reads it: a text
is read in at most one way, and a variant accepts the reading when it has an
address exactly where the variant accesses memory and fills the variant's slots.
`OperandText` is the syntax of operand texts. Every text of the syntax is read as
what it was written from; the converse holds but for a lone comma before an
address without leading operands.
-/

namespace IssueTiming

namespace Address

/-- The offsets of an address, the one inside the brackets first. -/
def offsets (address : Address) : List String :=
  address.preIndex.toList ++ address.postIndex.toList

/-- An address whose text can be read back: no offset ends early, and not both a
write-back mark and an increment follow the brackets. -/
structure WellFormed (address : Address) : Prop where
  offsets : ∀ offset ∈ address.offsets, Assembly.Solid offset.toList
  preIndex : ∀ offset ∈ address.preIndex, ']' ∉ offset.toList
  single : address.writeback = true → address.postIndex = none

end Address

end IssueTiming

namespace IssueTiming.Assembly

open Text

/-- What an operand text says: the operand names and the address, if it has one. -/
inductive OperandReading (text : List Char) : List String → Option Address → Prop
  | plain :
      (∀ token ∈ operandTokens text, isIdentifier token = true) →
      OperandReading text ((operandTokens text).map String.ofList) none
  | memory {parts : Bracketed} {tokens : List (List Char)} {base : List Char}
      {preIndex postIndex : Option String} {writeback : Bool} :
      splitBrackets text = .ok parts → leadingTokens parts.before = .ok tokens →
      readInside parts.inside = .ok (base, preIndex) →
      readAfter parts.after = .ok (writeback, postIndex) →
      (∀ token ∈ tokens, isIdentifier token = true) →
      OperandReading text ((tokens ++ [base]).map String.ofList)
        (some ⟨String.ofList base, preIndex, postIndex, writeback⟩)

/-- The syntax of operand texts. -/
inductive OperandText : List String → Option Address → List Char → Prop
  | plain {names : List String} {text : List Char} :
      Separated ',' (names.map String.toList) text → OperandText names none text
  | memory {leading : List String} {address : Address} {before inside after : List Char} :
      Followed ',' (leading.map String.toList) before →
      InsideText address.base.toList address.preIndex inside →
      (∀ offset ∈ address.preIndex, ']' ∉ offset.toList) →
      AfterText address.writeback address.postIndex after →
      OperandText (leading ++ [address.base]) (some address)
        (before ++ '[' :: inside ++ ']' :: after)

/-! ## The readers of both forms -/

theorem readPlainOperands_eq_ok_iff (count : Nat) (text : List Char) (captured : Captured count) :
    readPlainOperands count text = .ok captured ↔
      OperandReading text captured.names captured.address ∧ captured.address.isSome = false := by
  rcases captured with ⟨names, filled, address⟩
  constructor
  · intro read
    unfold readPlainOperands at read
    dsimp only at read
    split at read
    · rcases (bind_eq_ok_iff _ _ _).mp read with ⟨⟨⟩, checked, result⟩
      rcases Captured.mk.inj (Except.ok.inj result) with ⟨rfl, rfl⟩
      exact ⟨.plain ((checkTokens_eq_ok_iff _).mp checked), rfl⟩
    · cases read
  · intro read
    rcases read with ⟨reading, unaddressed⟩
    cases reading with
    | plain identifiers =>
        have count : (operandTokens text).length = count := by simpa using filled
        simp only [readPlainOperands, dif_pos count, (checkTokens_eq_ok_iff _).mpr identifiers]
        rfl
    | memory => cases unaddressed

theorem readMemoryOperands_eq_ok_iff (count : Nat) (text : List Char) (captured : Captured count) :
    readMemoryOperands count text = .ok captured ↔
      OperandReading text captured.names captured.address ∧ captured.address.isSome = true := by
  rcases captured with ⟨names, filled, address⟩
  constructor
  · intro read
    unfold readMemoryOperands at read
    rcases (bind_eq_ok_iff _ _ _).mp read with ⟨parts, split, read⟩
    rcases (bind_eq_ok_iff _ _ _).mp read with ⟨tokens, leading, read⟩
    split at read
    · rcases (bind_eq_ok_iff _ _ _).mp read with ⟨⟨base, preIndex⟩, inside, read⟩
      rcases (bind_eq_ok_iff _ _ _).mp read with ⟨⟨writeback, postIndex⟩, after, read⟩
      rcases (bind_eq_ok_iff _ _ _).mp read with ⟨⟨⟩, checked, result⟩
      rcases Captured.mk.inj (Except.ok.inj result) with ⟨rfl, rfl⟩
      exact ⟨.memory split leading inside after ((checkTokens_eq_ok_iff _).mp checked), rfl⟩
    · cases read
  · intro read
    rcases read with ⟨reading, addressed⟩
    cases reading with
    | plain => cases addressed
    | @memory parts tokens base preIndex postIndex writeback split leading inside after
        identifiers =>
        have count : tokens.length + 1 = count := by simpa using filled
        have checked := (checkTokens_eq_ok_iff tokens).mpr identifiers
        simp only [readMemoryOperands, bind_eq_ok_iff]
        refine ⟨parts, split, tokens, leading, ?_⟩
        simp only [dif_pos count, bind_eq_ok_iff]
        exact ⟨_, inside, _, after, (), checked, rfl⟩

/-- A variant accepts a reading of the operand text that has an address exactly
where the variant accesses memory. -/
theorem readOperands_eq_ok_iff (variant : Variant) (text : List Char)
    (captured : Captured variant.operandCount) :
    readOperands variant text = .ok captured ↔
      OperandReading text captured.names captured.address ∧
        captured.address.isSome = variant.memory.isSome := by
  unfold readOperands
  cases access : variant.memory.isSome with
  | false => simpa [access] using readPlainOperands_eq_ok_iff _ text captured
  | true => simpa [access] using readMemoryOperands_eq_ok_iff _ text captured

/-! ## One text, one reading -/

theorem bracket_mem_of_splitBrackets {text : List Char} {parts : Bracketed}
    (split : splitBrackets text = .ok parts) : '[' ∈ text := by
  rcases (splitBrackets_eq_ok_iff text parts).mp split with ⟨-, -, rfl⟩
  simp

theorem bracket_not_mem_of_identifiers {text : List Char}
    (identifiers : ∀ token ∈ operandTokens text, isIdentifier token = true) : '[' ∉ text :=
  (separated_operandTokens text).not_mem (by decide) (by decide) fun token member =>
    not_mem_of_isIdentifier (identifiers token member) (by decide)

theorem OperandReading.unique {text : List Char} {names otherNames : List String}
    {address otherAddress : Option Address} (reading : OperandReading text names address)
    (other : OperandReading text otherNames otherAddress) :
    names = otherNames ∧ address = otherAddress := by
  cases reading with
  | plain identifiers =>
      cases other with
      | plain => exact ⟨rfl, rfl⟩
      | memory split =>
          exact absurd (bracket_mem_of_splitBrackets split)
            (bracket_not_mem_of_identifiers identifiers)
  | memory split leading inside after =>
      cases other with
      | plain identifiers =>
          exact absurd (bracket_mem_of_splitBrackets split)
            (bracket_not_mem_of_identifiers identifiers)
      | memory otherSplit otherLeading otherInside otherAfter =>
          rcases Except.ok.inj (split.symm.trans otherSplit) with rfl
          rcases Except.ok.inj (leading.symm.trans otherLeading) with rfl
          rcases Prod.mk.inj (Except.ok.inj (inside.symm.trans otherInside)) with ⟨rfl, rfl⟩
          rcases Prod.mk.inj (Except.ok.inj (after.symm.trans otherAfter)) with ⟨rfl, rfl⟩
          exact ⟨rfl, rfl⟩

/-- A vacant text has no operands. -/
theorem OperandReading.names_eq_nil {names : List String} {address : Option Address}
    (reading : OperandReading [] names address) : names = [] := by
  cases reading with
  | plain identifiers => rfl
  | memory split => exact absurd (bracket_mem_of_splitBrackets split) (by simp)

/-- Blanks in front of an operand text do not change what it says. -/
theorem OperandReading.of_append_left {left text : List Char} (blank : Blank left)
    {names : List String} {address : Option Address}
    (reading : OperandReading (left ++ text) names address) :
    OperandReading text names address := by
  generalize joined : left ++ text = whole at reading
  cases reading with
  | plain identifiers =>
      have tokens := operandTokens_append_left blank text
      rw [joined] at tokens
      rw [tokens] at identifiers ⊢
      exact .plain identifiers
  | @memory parts tokens base preIndex postIndex writeback split leading inside after identifiers =>
      rcases (splitBrackets_eq_ok_iff whole parts).mp split with ⟨noOpening, noClosing, rfl⟩
      -- The opening bracket is no blank, so it stands behind the blanks.
      have behind : ∃ before, parts.before = left ++ before ∧
          text = before ++ '[' :: parts.inside ++ ']' :: parts.after := by
        rw [List.append_assoc] at joined
        rcases List.append_eq_append_iff.mp joined with
          ⟨before, equal, remaining⟩ | ⟨before, equal, remaining⟩
        · exact ⟨before, equal, by simpa using remaining⟩
        · cases before with
          | nil => exact ⟨[], by simpa using equal.symm, by simpa using remaining.symm⟩
          | cons bracket before =>
              rcases (List.cons.inj remaining).1 with rfl
              exact absurd (show '[' ∈ left by simp [equal]) (blank.not_mem rfl)
      rcases behind with ⟨before, beforeEqual, rfl⟩
      rw [beforeEqual, leadingTokens_append_left blank] at leading
      have splitText := (splitBrackets_eq_ok_iff
        (before ++ '[' :: parts.inside ++ ']' :: parts.after)
        ⟨before, parts.inside, parts.after⟩).mpr
          ⟨fun member => noOpening (by simp [beforeEqual, member]), noClosing, rfl⟩
      exact .memory splitText leading inside after identifiers

/-! ## The syntax and the readers -/

/-- A written text is read as what it was written from. -/
theorem OperandText.reading {text : List Char} {names : List String} {address : Option Address}
    (written : OperandText names address text)
    (identifiers : ∀ name ∈ names, isIdentifier name.toList = true) :
    OperandReading text names address := by
  have rebuilt : ∀ words : List String, (words.map String.toList).map String.ofList = words := by
    intro words
    simp
  cases written with
  | plain separated =>
      have tokens := operandTokens_eq (by simpa using identifiers) separated
      have reading : OperandReading text _ none := .plain (by simpa [tokens] using identifiers)
      rwa [tokens, rebuilt] at reading
  | @memory leading address before inside after followed insideText noClosing afterText =>
      have leadingIdentifiers : ∀ token ∈ leading.map String.toList, isIdentifier token = true := by
        simpa using fun name member => identifiers name (List.mem_append_left _ member)
      have baseIdentifier := identifiers address.base (by simp)
      have noOpening : '[' ∉ before := followed.not_mem (by decide) (by decide)
        fun token member => not_mem_of_isIdentifier (leadingIdentifiers token member) (by decide)
      have split := (splitBrackets_eq_ok_iff (before ++ '[' :: inside ++ ']' :: after)
        ⟨before, inside, after⟩).mpr
          ⟨noOpening, insideText.closing_not_mem baseIdentifier noClosing, rfl⟩
      have reading := OperandReading.memory split
        (leadingTokens_eq leadingIdentifiers followed)
        ((readInside_eq_ok_iff _ _ _).mpr ⟨baseIdentifier, insideText⟩)
        ((readAfter_eq_ok_iff _ _ _).mpr afterText) leadingIdentifiers
      rwa [List.map_append, rebuilt, List.map_singleton, String.ofList_toList] at reading

/-- A text that is read with more than a base register before or in its brackets
is one of the syntax. -/
theorem OperandReading.written {text : List Char} {names : List String}
    {address : Option Address} (reading : OperandReading text names address)
    (leads : address.isSome = true → 2 ≤ names.length) : OperandText names address text := by
  have rebuilt : ∀ words : List (List Char),
      (words.map String.ofList).map String.toList = words := by
    intro words
    simp
  cases reading with
  | plain identifiers =>
      apply OperandText.plain
      rw [rebuilt]
      exact separated_operandTokens text
  | @memory parts tokens base preIndex postIndex writeback split leading inside after identifiers =>
      rcases (splitBrackets_eq_ok_iff text parts).mp split with ⟨-, noClosing, rfl⟩
      have nonempty : tokens ≠ [] := by
        intro empty
        subst empty
        simpa using leads rfl
      have followed := followed_of_leadingTokens nonempty leading
      rcases (readInside_eq_ok_iff _ _ _).mp inside with ⟨-, insideText⟩
      rw [List.map_append, List.map_singleton]
      refine @OperandText.memory _ ⟨String.ofList base, preIndex, postIndex, writeback⟩ _ _ _
        ?_ ?_ (insideText.offset_closed noClosing) ((readAfter_eq_ok_iff _ _ _).mp after)
      · rwa [rebuilt]
      · simpa using insideText

/-! ## What is read is well formed -/

/-- Operand names that are identifiers, the last of which is the base of the
address. -/
structure WellFormedOperands (names : List String) (address : Option Address) : Prop where
  identifiers : ∀ name ∈ names, isIdentifier name.toList = true
  address : ∀ found ∈ address, found.WellFormed ∧ names.getLast? = some found.base

theorem wellFormed_of_texts {base : List Char} {address : Address} {inside after : List Char}
    (insideText : InsideText base address.preIndex inside) (insideFree : CommentFree inside)
    (closed : ']' ∉ inside) (afterText : AfterText address.writeback address.postIndex after)
    (afterFree : CommentFree after) : address.WellFormed := by
  have offsetOf : ∀ {offset : String} {rest part : List Char}, OffsetText offset rest →
      rest <:+ part → CommentFree part → Solid offset.toList :=
    fun written suffix free => ⟨by simpa using written.nonempty, written.trimmed,
      free.of_isInfix (written.offset_isInfix.trans suffix.isInfix)⟩
  rcases address with ⟨base, preIndex, postIndex, writeback⟩
  refine ⟨?_, ?_, ?_⟩
  · intro offset member
    simp only [Address.offsets, List.mem_append, Option.mem_toList] at member
    rcases member with rfl | rfl
    · rcases insideText.offsetText with ⟨rest, suffix, written⟩
      exact offsetOf written suffix insideFree
    · rcases afterText.offsetText with ⟨-, rest, suffix, written⟩
      exact offsetOf written suffix afterFree
  · exact insideText.offset_closed closed
  · intro marked
    subst marked
    cases afterText with
    | writeback => rfl

theorem OperandReading.identifiers {text : List Char} {names : List String}
    {address : Option Address} (reading : OperandReading text names address) :
    ∀ name ∈ names, isIdentifier name.toList = true := by
  cases reading with
  | plain identifiers => simpa using identifiers
  | @memory parts tokens base preIndex postIndex writeback split leading inside after identifiers =>
      have baseIdentifier := ((readInside_eq_ok_iff _ _ _).mp inside).1
      intro name member
      simp only [List.map_append, List.map_singleton, List.mem_append, List.mem_map,
        List.mem_singleton] at member
      rcases member with ⟨token, member, rfl⟩ | rfl
      · simpa using identifiers token member
      · simpa using baseIdentifier

theorem OperandReading.wellFormed {text : List Char} {names : List String}
    {address : Option Address} (reading : OperandReading text names address)
    (free : CommentFree text) : WellFormedOperands names address := by
  refine ⟨reading.identifiers, ?_⟩
  cases reading with
  | plain => simp
  | @memory parts tokens base preIndex postIndex writeback split leading inside after =>
      rcases (splitBrackets_eq_ok_iff text parts).mp split with ⟨-, noClosing, rfl⟩
      have insideFree : CommentFree parts.inside :=
        free.of_isInfix ⟨parts.before ++ ['['], ']' :: parts.after, by simp⟩
      have afterFree : CommentFree parts.after :=
        free.of_isInfix ⟨parts.before ++ '[' :: parts.inside ++ [']'], [], by simp⟩
      intro found same
      rcases Option.some.inj same with rfl
      exact ⟨wellFormed_of_texts ((readInside_eq_ok_iff _ _ _).mp inside).2 insideFree noClosing
        ((readAfter_eq_ok_iff _ _ _).mp after) afterFree, by simp⟩

end IssueTiming.Assembly
