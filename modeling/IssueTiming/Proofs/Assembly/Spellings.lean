import IssueTiming.Isa.Helium
import IssueTiming.Proofs.Assembly.LineReading

/-!
# Spellings of a line

The token of a line may be written in letters of either case, and any blanks may stand in
front of it, behind it and behind the line. All spellings have the same candidates. Where a
line has none, every variant is refused for a reason of the same kind.
-/

namespace IssueTiming.Assembly

open Text

theorem getLast?_eq_slash_iff {word changed : List Char}
    (same : lowerCase changed = lowerCase word) :
    changed.getLast? = some '/' ↔ word.getLast? = some '/' := by
  have slash : '/'.isAlpha = false := rfl
  have seen : ∀ text : List Char, text.getLast? = some '/' ↔ (lowerCase text).getLast? = some '/' := by
    intro text
    simp [lowerCase, List.getLast?_map, toLower_eq_iff slash]
  rw [seen changed, seen word, same]

/-! ## The parts of a line -/

/-- A line in five parts. The token, the gap and the operands are its code. -/
structure LineParts where
  front : List Char
  token : List Char
  gap : List Char
  operands : List Char
  rest : List Char

namespace LineParts

def code (parts : LineParts) : List Char :=
  parts.token ++ parts.gap ++ parts.operands

def line (parts : LineParts) : String :=
  String.ofList (parts.front ++ parts.code ++ parts.rest)

/-- A line is cut at the ends of its code and of its token. -/
structure Proper (parts : LineParts) : Prop where
  front : Blank parts.front
  code : Assembly.code parts.line.toList = parts.code
  token : Blankless parts.token
  gap : Blank parts.gap
  ended : parts.gap = [] → parts.operands = []

/-- The same line in another spelling: letters of the token in the other case, other blanks
in front of it and behind it, and more blanks behind the line. -/
structure Respelled (parts other : LineParts) : Prop where
  front : Blank other.front
  token : lowerCase other.token = lowerCase parts.token
  gap : Blank other.gap
  parted : other.gap = [] ↔ parts.gap = []
  operands : other.operands = parts.operands
  rest : ∃ after, Blank after ∧ other.rest = parts.rest ++ after

variable {parts other : LineParts}

theorem exists_proper (line : String) : ∃ parts : LineParts, parts.Proper ∧ parts.line = line := by
  have written := (Statement.ofCode_eq_iff (Assembly.code line.toList) _).mp rfl
  rcases written.tight (trimmed_code _) with ⟨gap, gapBlank, ended, cut⟩
  rcases padded_trim (beforeComment line.toList) with ⟨front, behind, frontBlank, -, padded⟩
  rcases beforeComment_isPrefix line.toList with ⟨comment, prefixed⟩
  have whole : line.toList = front ++ Assembly.code line.toList ++ (behind ++ comment) := by
    rw [Assembly.code, ← List.append_assoc, ← padded, prefixed]
  let statement := Statement.ofCode (Assembly.code line.toList)
  let parts : LineParts := ⟨front, statement.token, gap, statement.operands, behind ++ comment⟩
  have sameCode : parts.code = Assembly.code line.toList := cut.symm
  have sameLine : parts.line = line := by
    rw [LineParts.line, sameCode, ← whole, String.ofList_toList]
  refine ⟨parts, ⟨frontBlank, ?_, written.blankless, gapBlank, ended⟩, sameLine⟩
  rw [sameLine, sameCode]

theorem Proper.trimmed (proper : parts.Proper) : Trimmed parts.code :=
  proper.code ▸ trimmed_code _

theorem Proper.commentFree (proper : parts.Proper) : CommentFree parts.code :=
  proper.code ▸ commentFree_code _

theorem Respelled.blankless (respelled : parts.Respelled other) (proper : parts.Proper) :
    Blankless other.token := by
  rw [← blankless_lowerCase_iff, respelled.token, blankless_lowerCase_iff]
  exact proper.token

theorem Respelled.commentFree_token (respelled : parts.Respelled other) (proper : parts.Proper) :
    CommentFree other.token := by
  rw [← commentFree_lowerCase_iff, respelled.token, commentFree_lowerCase_iff]
  exact proper.commentFree.of_isInfix ⟨[], parts.gap ++ parts.operands, by simp [LineParts.code]⟩

/-- Where there is a gap, there are a token in front of it and operands behind it. -/
theorem Proper.nonempty (proper : parts.Proper) (parted : parts.gap ≠ []) :
    parts.token ≠ [] ∧ parts.operands ≠ [] := by
  rcases proper.trimmed with ⟨head, last⟩
  constructor
  · intro empty
    have first : parts.code.head? = some (parts.gap.head parted) := by
      simp [LineParts.code, empty, List.head?_append_of_ne_nil _ parted,
        List.head?_eq_some_head parted]
    have nonblank := head _ first
    simp [proper.gap _ (List.head_mem parted)] at nonblank
  · intro empty
    have final : parts.code.getLast? = some (parts.gap.getLast parted) := by
      simp [LineParts.code, empty, List.getLast?_append_of_ne_nil _ parted,
        List.getLast?_eq_some_getLast parted]
    have nonblank := last _ final
    simp [proper.gap _ (List.getLast_mem parted)] at nonblank

/-- Both spellings of the code are tokens alone, or both end in the operands. -/
theorem Respelled.code_cases (respelled : parts.Respelled other) (proper : parts.Proper) :
    (parts.code = parts.token ∧ other.code = other.token) ∨
      (Parting other.gap ∧ other.token ≠ [] ∧ other.code.getLast? = parts.code.getLast?) := by
  by_cases parted : parts.gap = []
  · left
    have noOperands := proper.ended parted
    simp [LineParts.code, respelled.operands, respelled.parted.mpr parted, parted, noOperands]
  · right
    rcases proper.nonempty parted with ⟨token, operands⟩
    have otherToken : other.token ≠ [] := by
      intro empty
      have lowered := respelled.token
      rw [empty] at lowered
      exact token (List.map_eq_nil_iff.mp lowered.symm)
    have parting : Parting other.gap := ⟨fun unparted => parted (respelled.parted.mp unparted),
      respelled.gap.not_mem rfl, respelled.gap.not_mem rfl⟩
    refine ⟨parting, otherToken, ?_⟩
    rw [LineParts.code, LineParts.code, respelled.operands,
      List.getLast?_append_of_ne_nil _ operands, List.getLast?_append_of_ne_nil _ operands]

/-- The new code could be a whole line, as the old one could, and it ends in no new slash. -/
theorem Respelled.code_stands (respelled : parts.Respelled other) (proper : parts.Proper) :
    CommentFree other.code ∧ Trimmed other.code ∧
      (other.code.getLast? = some '/' → parts.code.getLast? = some '/') := by
  have tokenFree := respelled.commentFree_token proper
  have tokenTrimmed := (respelled.blankless proper).trimmed
  rcases respelled.code_cases proper with ⟨sameCode, otherCode⟩ | ⟨parting, nonempty, ends⟩
  · rw [sameCode, otherCode]
    exact ⟨tokenFree, tokenTrimmed, (getLast?_eq_slash_iff respelled.token).mp⟩
  · have operandsFree : CommentFree other.operands := by
      rw [respelled.operands]
      exact proper.commentFree.of_isInfix
        ⟨parts.token ++ parts.gap, [], by simp [LineParts.code]⟩
    refine ⟨tokenFree.join operandsFree parting, ⟨?_, ?_⟩, ?_⟩
    · rw [LineParts.code, List.append_assoc, List.head?_append_of_ne_nil _ nonempty]
      exact tokenTrimmed.head
    · rw [ends]
      exact proper.trimmed.last
    · rw [ends]
      exact id

/-- Another spelling of a line has its parts at the ends of its own code and token. -/
theorem Respelled.proper (respelled : parts.Respelled other) (proper : parts.Proper) :
    other.Proper := by
  have ended : other.gap = [] → other.operands = [] := fun unparted => by
    rw [respelled.operands, proper.ended (respelled.parted.mp unparted)]
  refine ⟨respelled.front, ?_, respelled.blankless proper, respelled.gap, ended⟩
  have cut := proper.code
  rw [line, String.toList_ofList, code_eq_iff proper.front] at cut
  rcases cut with ⟨-, -, seam, behind⟩
  rcases respelled.code_stands proper with ⟨free, trimmed, slash⟩
  rcases respelled.rest with ⟨after, afterBlank, rest⟩
  rw [line, String.toList_ofList, rest, ← List.append_assoc, code_append_of_blank afterBlank,
    code_eq_iff respelled.front]
  exact ⟨free, trimmed, seam.imp_left (mt slash), behind⟩

end LineParts

/-! ## The statement of a line -/

theorem cut?_lowerCase {separator : Char} (noLetter : separator.isAlpha = false)
    (text : List Char) :
    cut? (· == separator) (lowerCase text) =
      (cut? (· == separator) text).map fun (before, after) => (lowerCase before, lowerCase after) := by
  induction text with
  | nil => rfl
  | cons head tail induction =>
      have sameTest : (head.toLower == separator) = (head == separator) := by
        rw [Bool.eq_iff_iff, beq_iff_eq, beq_iff_eq, toLower_eq_iff noLetter]
      rw [show lowerCase (head :: tail) = head.toLower :: lowerCase tail from rfl, cut?, cut?,
        sameTest, induction]
      cases head == separator with
      | true => rfl
      | false => cases cut? (· == separator) tail <;> rfl

/-- Two statements with the same operand text whose tokens differ in case at most. -/
structure Statement.SameButCase (statement other : Statement) : Prop where
  mnemonic : lowerCase other.mnemonic = lowerCase statement.mnemonic
  suffix : other.suffix.map lowerCase = statement.suffix.map lowerCase
  operands : other.operands = statement.operands

section

variable {parts other : LineParts}

theorem LineParts.Proper.trim_behind_token (proper : parts.Proper) :
    trim (parts.gap.drop 1 ++ parts.operands) = trim parts.operands :=
  trim_append_of_blank (fun character member => proper.gap character (List.mem_of_mem_drop member)) _

theorem LineParts.Proper.ofCode_of_uncut (proper : parts.Proper)
    (uncut : cut? (· == '.') parts.token = none) :
    Statement.ofCode parts.code = ⟨parts.token, none, trim parts.operands⟩ := by
  simp only [Statement.ofCode, LineParts.code, proper.trim_behind_token, uncut,
    Statement.splitToken_append proper.token proper.gap proper.ended]

theorem LineParts.Proper.ofCode_of_cut (proper : parts.Proper) {mnemonic suffix : List Char}
    (cut : cut? (· == '.') parts.token = some (mnemonic, suffix)) :
    Statement.ofCode parts.code = ⟨mnemonic, some suffix, trim parts.operands⟩ := by
  simp only [Statement.ofCode, LineParts.code, proper.trim_behind_token, cut,
    Statement.splitToken_append proper.token proper.gap proper.ended]

theorem LineParts.Respelled.sameButCase (respelled : parts.Respelled other)
    (proper : parts.Proper) :
    (Statement.ofCode parts.code).SameButCase (Statement.ofCode other.code) := by
  have otherProper := respelled.proper proper
  have point : '.'.isAlpha = false := rfl
  have sameCut := congrArg (cut? (· == '.')) respelled.token
  rw [cut?_lowerCase point, cut?_lowerCase point] at sameCut
  cases cut : cut? (· == '.') parts.token with
  | none =>
      rw [cut, Option.map_none, Option.map_eq_none_iff] at sameCut
      rw [proper.ofCode_of_uncut cut, otherProper.ofCode_of_uncut sameCut, respelled.operands]
      exact ⟨respelled.token, rfl, rfl⟩
  | some cutParts =>
      rcases cutParts with ⟨mnemonic, suffix⟩
      rw [cut, Option.map_some, Option.map_eq_some_iff] at sameCut
      rcases sameCut with ⟨⟨otherMnemonic, otherSuffix⟩, otherCut, same⟩
      rcases Prod.mk.inj same with ⟨sameMnemonic, sameSuffix⟩
      rw [proper.ofCode_of_cut cut, otherProper.ofCode_of_cut otherCut, respelled.operands]
      exact ⟨sameMnemonic, congrArg some sameSuffix, rfl⟩

end

/-! ## The readings of a statement -/

/-- What kind of thing is wrong, whatever text shows it. -/
inductive Mismatch.Kind where
  | mnemonic
  | missingSuffix
  | suffix
  | unexpectedSuffix
  | operandCount
  | operand
  | registerClass
  | address
  | writebackWithPostIndex
deriving DecidableEq, Repr

def Mismatch.kind : Mismatch → Mismatch.Kind
  | .mnemonic _ _ => .mnemonic
  | .missingSuffix _ => .missingSuffix
  | .suffix _ _ => .suffix
  | .unexpectedSuffix _ => .unexpectedSuffix
  | .operandCount _ _ => .operandCount
  | .operand _ => .operand
  | .registerClass _ _ _ => .registerClass
  | .address _ => .address
  | .writebackWithPostIndex => .writebackWithPostIndex

/-- The variant that was tried and the kind of reason why it was refused. -/
def Attempt.outline (attempt : Attempt) : String × Mismatch.Kind :=
  (attempt.variant, attempt.reason.kind)

/-- Two checks that succeed with one result or fail for reasons of one kind. -/
def SameVerdict {Result : Type} (check other : Except Mismatch Result) : Prop :=
  EndAlike (fun reason otherReason => otherReason.kind = reason.kind) Eq check other

theorem SameVerdict.refl {Result : Type} (check : Except Mismatch Result) :
    SameVerdict check check := by
  apply EndAlike.refl
  · intro reason
    rfl
  · intro value
    rfl

theorem SameVerdict.bind {First Second : Type} {check other : Except Mismatch First}
    {next otherNext : First → Except Mismatch Second} (first : SameVerdict check other)
    (second : ∀ value, SameVerdict (next value) (otherNext value)) :
    SameVerdict (check >>= next) (other >>= otherNext) := by
  apply EndAlike.bind first
  intro value _ same
  subst same
  exact second value

variable {statement other : Statement}

theorem sameVerdict_checkMnemonic (variant : Variant) {found otherFound : List Char}
    (same : lowerCase otherFound = lowerCase found) :
    SameVerdict (checkMnemonic variant found) (checkMnemonic variant otherFound) := by
  rw [checkMnemonic, checkMnemonic, sameWord, sameWord, same]
  split
  · exact .ok rfl
  · exact .error rfl

theorem sameVerdict_readSuffix (expected : Option SuffixKind) {found otherFound : Option (List Char)}
    (same : otherFound.map lowerCase = found.map lowerCase) :
    SameVerdict (readSuffix expected found) (readSuffix expected otherFound) := by
  cases found with
  | none =>
      rw [Option.map_none, Option.map_eq_none_iff] at same
      rw [same]
      exact .refl _
  | some suffix =>
      rcases Option.map_eq_some_iff.mp same with ⟨otherSuffix, rfl, lowered⟩
      cases expected with
      | none => exact .error rfl
      | some kind =>
          rw [readSuffix, readSuffix, lowered]
          exact .refl _

theorem Statement.SameButCase.sameVerdict_readAs (same : statement.SameButCase other)
    (registers : RegisterFile) (variant : Variant) :
    SameVerdict (readAs registers statement variant) (readAs registers other variant) := by
  unfold readAs
  rw [same.operands]
  exact (sameVerdict_checkMnemonic variant same.mnemonic).bind fun _ =>
    (sameVerdict_readSuffix _ same.suffix).bind fun _ => .refl _

/-! ## All variants of a dialect -/

section

variable {text otherText : List Char}

theorem accepted_eq_of_sameButCase (dialect : Dialect)
    (same : (Statement.ofCode text).SameButCase (Statement.ofCode otherText)) :
    accepted (readings dialect otherText) = accepted (readings dialect text) := by
  simp only [accepted, readings, List.filterMap_map]
  apply congrArg (List.filterMap · dialect.variants)
  funext variant
  simp only [Function.comp_apply]
  have verdict := same.sameVerdict_readAs dialect.registers variant
  generalize readAs dialect.registers (.ofCode text) variant = check at verdict ⊢
  generalize readAs dialect.registers (.ofCode otherText) variant = other at verdict ⊢
  cases verdict with
  | error sameKind => rfl
  | ok sameResult => rw [sameResult]

theorem outline_rejected_eq_of_sameButCase (dialect : Dialect)
    (same : (Statement.ofCode text).SameButCase (Statement.ofCode otherText)) :
    (rejected (readings dialect otherText)).map Attempt.outline =
      (rejected (readings dialect text)).map Attempt.outline := by
  simp only [rejected, readings, List.filterMap_map, List.map_filterMap]
  apply congrArg (List.filterMap · dialect.variants)
  funext variant
  simp only [Function.comp_apply]
  have verdict := same.sameVerdict_readAs dialect.registers variant
  generalize readAs dialect.registers (.ofCode text) variant = check at verdict ⊢
  generalize readAs dialect.registers (.ofCode otherText) variant = other at verdict ⊢
  cases verdict with
  | error sameKind => simp [Attempt.outline, sameKind]
  | ok sameResult => rfl

end

theorem lowerCase_suffix_of_mem_candidates {dialect : Dialect} {line : String}
    {candidates : List Instruction} (read : parseLine dialect line = .ok candidates) :
    ∀ candidate ∈ candidates, ∀ suffix ∈ candidate.suffix,
      lowerCase suffix.toList = suffix.toList := by
  intro candidate member suffix isSuffix
  rcases (exists_parseLine_iff dialect line candidate).mp ⟨candidates, read, member⟩ with
    ⟨-, -, conforms⟩
  exact (Variant.plain_of_takesSuffix conforms.suffix suffix isSuffix).2

/-- Every line has the parts that a spelling changes, and no spelling of them changes the
candidates, whose suffixes are in small letters, or the kinds of the reasons why there are
none. -/
theorem parseLine_respelled (dialect : Dialect) :
    (∀ line, ∃ parts : LineParts, parts.Proper ∧ parts.line = line) ∧
    ∀ parts other : LineParts, parts.Proper → parts.Respelled other →
      (∀ candidates, parseLine dialect parts.line = .ok candidates →
        parseLine dialect other.line = .ok candidates ∧
        ∀ candidate ∈ candidates, ∀ suffix ∈ candidate.suffix,
          lowerCase suffix.toList = suffix.toList) ∧
      ∀ fault, parseLine dialect parts.line = .error fault →
        ∃ otherFault attempts otherAttempts, parseLine dialect other.line = .error otherFault ∧
          fault.attempts? = some attempts ∧ otherFault.attempts? = some otherAttempts ∧
          otherAttempts.map Attempt.outline = attempts.map Attempt.outline := by
  refine ⟨LineParts.exists_proper, ?_⟩
  intro parts other proper respelled
  have same := respelled.sameButCase proper
  have sameAccepted := accepted_eq_of_sameButCase dialect same
  have sameOutlines := outline_rejected_eq_of_sameButCase dialect same
  constructor
  · intro candidates read
    refine ⟨?_, lowerCase_suffix_of_mem_candidates read⟩
    rw [parseLine_eq_ok_iff, proper.code] at read
    rwa [parseLine_eq_ok_iff, (respelled.proper proper).code, sameAccepted]
  · intro fault refused
    rw [parseLine_eq_error_iff, proper.code] at refused
    rcases refused with ⟨none, rfl⟩
    refine ⟨_, _, _, (parseLine_eq_error_iff _ _ _).mpr ⟨?_, rfl⟩, rfl, rfl, ?_⟩
    · rw [(respelled.proper proper).code, sameAccepted, none]
    · rw [(respelled.proper proper).code, sameOutlines]

/-- The no-break space stands for the space, and a suffix of no kind is refused in capitals
as it is in small letters. -/
theorem parseLine_respelled_vmul :
    let operands := "q0, q1, q2".toList
    let parts : LineParts := ⟨[], "vmul.s32".toList, [' '], operands, " // go".toList⟩
    let respelled : LineParts := ⟨['\t'], "VMul.S32".toList, ['\u00a0', ' '], operands, " // go ".toList⟩
    let respelledWide : LineParts := ⟨[], "VMUL.S64".toList, ['\t'], operands, []⟩
    let product : Instruction :=
      ⟨.registerForm "vmul" .vmul "vmul" (some .any) [.vector] [] [.vector, .vector],
        ["q0", "q1", "q2"], rfl, some "s32", none⟩
    parseLine helium parts.line = .ok [product] ∧ parseLine helium respelled.line = .ok [product] ∧
      ∃ fault attempts, parseLine helium respelledWide.line = .error fault ∧
        fault.attempts? = some attempts ∧
        (attempts.map Attempt.outline).take 3 =
          [("vmul", .suffix), ("vmul_scalar", .suffix), ("vmla", .mnemonic)] := by
  intro operands parts respelled respelledWide product
  let wide : LineParts := ⟨[], "vmul.s64".toList, [' '], operands, []⟩
  have proper : parts.Proper :=
    ⟨by decide, by decide +kernel, by decide +kernel, by decide, by decide⟩
  have spelling : parts.Respelled respelled :=
    ⟨by decide, by decide +kernel, by decide, by decide, rfl, [' '], by decide, by decide⟩
  have wideProper : wide.Proper :=
    ⟨by decide, by decide +kernel, by decide +kernel, by decide, by decide⟩
  have wideSpelling : wide.Respelled respelledWide :=
    ⟨by decide, by decide +kernel, by decide, by decide, rfl, [], by decide, by decide⟩
  have read : parseLine helium parts.line = .ok [product] :=
    (parseLine_eq_ok_iff _ _ _).mpr ⟨by simp, by decide +kernel⟩
  have refused := (parseLine_eq_error_iff helium wide.line _).mpr ⟨by decide +kernel, rfl⟩
  rcases ((parseLine_respelled helium).2 _ _ wideProper wideSpelling).2 _ refused with
    ⟨fault, attempts, otherAttempts, otherRefused, listed, otherListed, outlines⟩
  rcases Option.some.inj listed with rfl
  refine ⟨read, (((parseLine_respelled helium).2 _ _ proper spelling).1 _ read).1, fault,
    otherAttempts, otherRefused, otherListed, ?_⟩
  rw [outlines]
  decide +kernel

end IssueTiming.Assembly
