import IssueTiming.Isa.Neon
import IssueTiming.Proofs.Assembly.LineReading

/-!
# Offsets and what follows them

The operand template has one offset inside the brackets of an address or one increment
after them. Of the text behind the `#` only the ends are looked at, so a further field or
a late write-back mark is not refused but taken into the offset. An offset is a single
immediate exactly when nothing further stands in its part of the line.
-/

namespace IssueTiming.Assembly

open Text

/-- An offset without a further field and without a write-back mark in it. -/
def SingleImmediate (offset : String) : Prop :=
  ',' ∉ offset.toList ∧ '!' ∉ offset.toList

instance : DecidablePred SingleImmediate := fun offset =>
  inferInstanceAs (Decidable (',' ∉ offset.toList ∧ '!' ∉ offset.toList))

/-- The text has no comma but the one that introduces its offset, and no write-back mark. -/
def NothingFurther (text : List Char) : Prop :=
  text.count ',' = 1 ∧ '!' ∉ text

/-! ## Counting a character -/

variable {offset : String} {character : Char}

/-- Around an offset and its `#` stand blanks alone. -/
theorem OffsetText.count_eq {text : List Char} (written : OffsetText offset text)
    (nonblank : isBlank character = false) (noHash : '#' ≠ character) :
    text.count character = offset.toList.count character := by
  have blankCount : ∀ blank, Blank blank → blank.count character = 0 := fun blank isBlank =>
    List.count_eq_zero.mpr (isBlank.not_mem nonblank)
  rcases written with ⟨-, -, before, after, beforeBlank, ⟨left, right, leftBlank, rightBlank, rfl⟩,
    rfl⟩
  simp [List.count_cons_of_ne noHash, blankCount before beforeBlank, blankCount left leftBlank,
    blankCount right rightBlank]

theorem InsideText.count_eq {base inside : List Char}
    (written : InsideText base (some offset) inside) (identifier : isIdentifier base = true)
    (nonblank : isBlank character = false) (noPart : isIdentifierPart character = false)
    (noHash : '#' ≠ character) :
    inside.count character = [','].count character + offset.toList.count character := by
  cases written with
  | @offset _ text rest padded immediate =>
      have inBase := padded.not_mem nonblank (not_mem_of_isIdentifier identifier noPart)
      rw [← immediate.count_eq nonblank noHash, List.count_append, List.count_eq_zero.mpr inBase,
        Nat.zero_add, ← List.singleton_append, List.count_append]

theorem AfterText.count_eq {writeback : Bool} {after : List Char}
    (written : AfterText writeback (some offset) after) (nonblank : isBlank character = false)
    (noHash : '#' ≠ character) :
    after.count character = [','].count character + offset.toList.count character := by
  cases written with
  | @increment _ gap rest blank immediate =>
      rw [← immediate.count_eq nonblank noHash, List.count_append,
        List.count_eq_zero.mpr (blank.not_mem nonblank), Nat.zero_add, ← List.singleton_append,
        List.count_append]

theorem singleImmediate_iff_of_count {text : List Char}
    (counted : ∀ character ∈ [',', '!'],
      text.count character = [','].count character + offset.toList.count character) :
    SingleImmediate offset ↔ NothingFurther text := by
  have commas := counted ',' (by simp)
  have marks := counted '!' (by simp)
  rw [SingleImmediate, NothingFurther, ← List.count_eq_zero, ← List.count_eq_zero,
    ← List.count_eq_zero, commas, marks]
  simp

theorem InsideText.singleImmediate_iff {base inside : List Char}
    (written : InsideText base (some offset) inside) (identifier : isIdentifier base = true) :
    SingleImmediate offset ↔ NothingFurther inside := by
  apply singleImmediate_iff_of_count
  intro character member
  rcases List.mem_pair.mp member with rfl | rfl
  · exact written.count_eq identifier (by decide) (by decide) (by decide)
  · exact written.count_eq identifier (by decide) (by decide) (by decide)

theorem AfterText.singleImmediate_iff {writeback : Bool} {after : List Char}
    (written : AfterText writeback (some offset) after) :
    SingleImmediate offset ↔ NothingFurther after := by
  apply singleImmediate_iff_of_count
  intro character member
  rcases List.mem_pair.mp member with rfl | rfl
  · exact written.count_eq (by decide) (by decide)
  · exact written.count_eq (by decide) (by decide)

/-! ## The offsets of candidates -/

/-- The brackets of an operand text, and the address that they and what follows them write. -/
structure AddressIn (address : Address) (text inside after : List Char) : Prop where
  divided : ∃ before, '[' ∉ before ∧ text = before ++ '[' :: inside ++ ']' :: after
  closing : ']' ∉ inside
  base : isIdentifier address.base.toList = true
  inside : InsideText address.base.toList address.preIndex inside
  after : AfterText address.writeback address.postIndex after

theorem OperandReading.addressIn {text : List Char} {names : List String} {address : Address}
    (reading : OperandReading text names (some address)) :
    ∃ inside after, AddressIn address text inside after := by
  cases reading with
  | @memory parts tokens base preIndex postIndex writeback split leading insideRead afterRead =>
      rcases (splitBrackets_eq_ok_iff _ _).mp split with ⟨noOpening, noClosing, divided⟩
      rcases (readInside_eq_ok_iff _ _ _).mp insideRead with ⟨identifier, insideText⟩
      exact ⟨parts.inside, parts.after, ⟨parts.before, noOpening, divided⟩, noClosing,
        by simpa using identifier, by simpa using insideText,
        (readAfter_eq_ok_iff _ _ _).mp afterRead⟩

/-- Nothing follows a write-back mark. -/
theorem AfterText.eq_of_writeback {postIndex : Option String} {after : List Char}
    (written : AfterText true postIndex after) : postIndex = none ∧ trim after = ['!'] := by
  cases written with
  | writeback padded => exact ⟨rfl, padded.trim_eq (Blankless.trimmed (by decide))⟩

/-- The address of a candidate has a write-back mark or an increment after its brackets, not
both. Its offsets are single immediates exactly when nothing further stands beside them,
inside the brackets or after them. -/
theorem singleImmediate_candidates (dialect : Dialect) (line : String)
    (candidates : List Instruction) (parsed : parseLine dialect line = .ok candidates)
    (candidate : Instruction) (member : candidate ∈ candidates) (address : Address)
    (addressed : candidate.address = some address) :
    ∃ (statement : Statement) (inside after : List Char),
      statement.WrittenAs (code line.toList) ∧
      AddressIn address statement.operands inside after ∧
      (∀ offset ∈ address.preIndex, SingleImmediate offset ↔ NothingFurther inside) ∧
      (∀ offset ∈ address.postIndex, SingleImmediate offset ↔ NothingFurther after) ∧
      (address.writeback = true → address.postIndex = none ∧ trim after = ['!']) := by
  rcases (exists_parseLine_iff _ _ _).mp ⟨candidates, parsed, member⟩ with ⟨-, conveyed, -⟩
  have reading := conveyed.operands
  rw [addressed] at reading
  rcases reading.addressIn with ⟨inside, after, written⟩
  refine ⟨_, inside, after, (Statement.ofCode_eq_iff _ _).mp rfl, written, ?_, ?_, ?_⟩
  · intro offset found
    have insideText := written.inside
    rw [Option.mem_def.mp found] at insideText
    exact insideText.singleImmediate_iff written.base
  · intro offset found
    have afterText := written.after
    rw [Option.mem_def.mp found] at afterText
    exact afterText.singleImmediate_iff
  · intro marked
    have afterText := written.after
    rw [marked] at afterText
    exact afterText.eq_of_writeback

theorem singleImmediate_candidates_store :
    let store : Instruction :=
      ⟨.memoryForm "str" .str "str" none .store [] [.vector, .gpr], ["v3", "x0"], rfl, none,
        some ⟨"x0", some "16", none, true⟩⟩
    parseLine neon "str v3, [x0, # 16 ] !" = .ok [store] ∧
      ∃ (statement : Statement) (inside after : List Char),
        statement.WrittenAs (code "str v3, [x0, # 16 ] !".toList) ∧
        AddressIn ⟨"x0", some "16", none, true⟩ statement.operands inside after ∧
        NothingFurther inside ∧ trim after = ['!'] := by
  intro store
  have parsed : parseLine neon "str v3, [x0, # 16 ] !" = .ok [store] :=
    (parseLine_eq_ok_iff _ _ _).mpr ⟨by simp, by decide +kernel⟩
  rcases singleImmediate_candidates neon _ _ parsed store (by simp) _ rfl with
    ⟨statement, inside, after, written, addressIn, pre, -, marked⟩
  have single : SingleImmediate "16" := by decide
  exact ⟨parsed, statement, inside, after, written, addressIn, (pre "16" rfl).mp single,
    (marked rfl).2⟩

/-- A further field inside the brackets and a mark after the increment are read as parts of
the offsets. -/
theorem offset_keeps_field_and_mark :
    let load (address : Address) : Instruction :=
      ⟨.memoryForm "ldr" .ldr "ldr" none .load [.vector] [.gpr], ["v3", "x0"], rfl, none,
        some address⟩
    parseLine neon "ldr v3, [x0], #8!" = .ok [load ⟨"x0", none, some "8!", false⟩] ∧
      '!' ∈ "8!".toList ∧
      parseLine neon "ldr v3, [x0, #4, #8]" = .ok [load ⟨"x0", some "4, #8", none, false⟩] ∧
      ',' ∈ "4, #8".toList := by
  intro load
  have marked : parseLine neon "ldr v3, [x0], #8!" =
      .ok [load ⟨"x0", none, some "8!", false⟩] :=
    (parseLine_eq_ok_iff _ _ _).mpr ⟨by simp, by decide +kernel⟩
  have further : parseLine neon "ldr v3, [x0, #4, #8]" =
      .ok [load ⟨"x0", some "4, #8", none, false⟩] :=
    (parseLine_eq_ok_iff _ _ _).mpr ⟨by simp, by decide +kernel⟩
  exact ⟨marked, by decide, further, by decide⟩

end IssueTiming.Assembly
