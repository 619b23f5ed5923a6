import IssueTiming.Isa.Catalogue
import IssueTiming.Proofs.Assembly.Rendering

/-!
# Reading what was rendered

Rendering is a canonical form of reading: the text of a candidate has the
candidates of the line that the candidate was read from. It also is a form of
every instruction that is built from fitting parts: its text has the instruction
among its candidates.
-/

namespace IssueTiming

open Text Assembly

/-! ## Legible instructions -/

namespace Instruction

variable {instruction : Instruction}

/-- What a text without comments and blanks around it conveys is legible. -/
theorem legible_of_conveys {statement : Statement} {text : List Char}
    (written : statement.WrittenAs text) (free : CommentFree text) (trimmed : Trimmed text)
    (conveyed : statement.Conveys instruction) : instruction.Legible := by
  rcases written.tight trimmed with ⟨gap, blank, ended, equal⟩
  have token : Plain statement.token :=
    ⟨written.blankless, free.of_isInfix ⟨[], gap ++ statement.operands, by simp [equal]⟩⟩
  refine ⟨?_, ?_, ?_, ?_, ?_⟩
  · rw [← plain_lowerCase_iff, ← conveyed.mnemonic, plain_lowerCase_iff]
    exact token.of_isInfix (List.prefix_append _ _).isInfix
  · have point : '.'.isAlpha = false := by decide
    rw [← mem_lowerCase_iff point, ← conveyed.mnemonic, mem_lowerCase_iff point]
    exact written.noPoint
  · intro suffix found
    rw [← conveyed.suffix] at found
    rcases Option.map_eq_some_iff.mp found with ⟨written, spelled, rfl⟩
    have part : written <:+: statement.token :=
      ⟨statement.mnemonic ++ ['.'], [], by simp [Statement.token, suffixText, spelled]⟩
    simpa [plain_lowerCase_iff] using token.of_isInfix part
  · refine conveyed.operands.wellFormed (free.of_isInfix ⟨statement.token ++ gap, [], ?_⟩)
    simp [equal]
  · intro noMnemonic noSuffix
    have noToken : statement.token = [] := by
      have first := conveyed.mnemonic
      have second := conveyed.suffix
      rw [noMnemonic] at first
      rw [noSuffix, Option.map_eq_none_iff] at second
      simpa [lowerCase, Statement.token, second, suffixText] using first
    have noGap : gap = [] := by
      cases gap with
      | nil => rfl
      | cons first gap =>
          have nonblank := trimmed.head first (by simp [equal, noToken])
          simp [blank first (by simp)] at nonblank
    exact OperandReading.names_eq_nil (ended noGap ▸ conveyed.operands)

theorem legible_of_mem_accepted {dialect : Dialect} {line : List Char}
    (member : instruction ∈ accepted (readings dialect (code line))) : instruction.Legible := by
  rcases (mem_accepted_iff _ _ _).mp member with ⟨-, conveyed, -⟩
  exact legible_of_conveys ((Statement.ofCode_eq_iff _ _).mp rfl) (commentFree_code line)
    (trimmed_code line) conveyed

end Instruction

namespace Assembly

/-! ## Candidates -/

/-- The text of one instruction that a line is read as has the readings of the line. -/
theorem accepted_readings_render {dialect : Dialect} {line : List Char} {instruction : Instruction}
    (member : instruction ∈ accepted (readings dialect (code line))) :
    accepted (readings dialect (code instruction.render.toList)) =
      accepted (readings dialect (code line)) := by
  have legible := Instruction.legible_of_mem_accepted member
  rcases (mem_accepted_iff _ _ _).mp member with ⟨-, conveyed, -⟩
  exact accepted_readings_eq dialect legible.conveys conveyed

/-- The text of any candidate has exactly the candidates of the line it was read from. -/
theorem parseLine_render_candidate (dialect : Dialect) (line : String)
    (candidates : List Instruction) (parsed : parseLine dialect line = .ok candidates)
    (candidate : Instruction) (member : candidate ∈ candidates) :
    parseLine dialect candidate.render = .ok candidates := by
  rcases (parseLine_eq_ok_iff _ _ _).mp parsed with ⟨nonempty, rfl⟩
  exact (parseLine_eq_ok_iff _ _ _).mpr ⟨nonempty, accepted_readings_render member⟩

theorem parseLine_render_candidate_load :
    let load : Instruction :=
      ⟨.memoryForm "ldr_x" .ldrX "ldr" none .load [.gpr] [.gpr], ["x3", "x1"], rfl, none,
        some ⟨"x1", some "8, LSL [2", none, true⟩⟩
    load.render = "ldr x3, [x1, #8, LSL [2]!" ∧
      parseLine neon "  LDR x3 ,[ x1 ,# 8, LSL [2 ] ! // next word" = .ok [load] ∧
      parseLine neon load.render = .ok [load] := by
  intro load
  have parsed : parseLine neon "  LDR x3 ,[ x1 ,# 8, LSL [2 ] ! // next word" = .ok [load] :=
    (parseLine_eq_ok_iff _ _ _).mpr ⟨by simp, by decide +kernel⟩
  exact ⟨by decide, parsed, parseLine_render_candidate neon _ _ parsed load (by simp)⟩

/-! ## Instructions that were built -/

/-- The text of an instruction that is built of fitting parts has the instruction
among its candidates. Offsets may hold any character but a comment marker; only
the one inside the brackets must not hold a closing bracket. -/
theorem exists_parseLine_render_of_ofOperands (dialect : Dialect) (variant : Variant)
    (listed : variant ∈ dialect.variants) (named : variant.mnemonic ≠ "")
    (plain : Plain variant.mnemonic.toList) (noPoint : '.' ∉ variant.mnemonic.toList)
    (operands : List String) (suffix : Option String) (address : Option Address)
    (instruction : Instruction)
    (built : Instruction.ofOperands variant operands suffix address = .ok instruction)
    (wellFormed : WellFormedOperands operands address)
    (fits : instruction.fits dialect.registers = true)
    (takes : variant.takesSuffix suffix = true)
    (addressed : address.isSome = variant.memory.isSome) :
    ∃ candidates, parseLine dialect instruction.render = .ok candidates ∧
      instruction ∈ candidates := by
  unfold Instruction.ofOperands at built
  split at built
  · rcases Except.ok.inj built with rfl
    refine (exists_parseLine_iff _ _ _).mpr ⟨listed, ?_, takes, addressed, fits⟩
    exact Instruction.Legible.conveys
      ⟨plain, noPoint, Variant.plain_of_takesSuffix takes, wellFormed,
        fun unnamed => absurd unnamed named⟩
  · cases built

theorem exists_parseLine_render_of_ofOperands_store :
    ∃ candidates,
      parseLine helium "vstrw.u32 q3, [r1], #4*(n+1)]" = .ok candidates ∧
        (⟨.memoryForm "vstrw" .vstrw "vstrw" (some .word) .store [] [.vector, .gpr],
          ["q3", "r1"], rfl, some "u32", some ⟨"r1", none, some "4*(n+1)]", false⟩⟩ :
            Instruction) ∈ candidates := by
  have offset : Solid "4*(n+1)]".toList :=
    ⟨by decide, Blankless.trimmed (by decide), commentFree_of_not_mem (by decide) (by decide)⟩
  have address : Address.WellFormed ⟨"r1", none, some "4*(n+1)]", false⟩ :=
    ⟨by simpa [Address.offsets] using offset, by simp, by simp⟩
  have mnemonic : Plain "vstrw".toList :=
    ⟨by decide, commentFree_of_not_mem (by decide) (by decide)⟩
  exact exists_parseLine_render_of_ofOperands helium
    (.memoryForm "vstrw" .vstrw "vstrw" (some .word) .store [] [.vector, .gpr])
    (by decide) (by decide) mnemonic (by decide) ["q3", "r1"] (some "u32")
    (some ⟨"r1", none, some "4*(n+1)]", false⟩)
    ⟨.memoryForm "vstrw" .vstrw "vstrw" (some .word) .store [] [.vector, .gpr],
      ["q3", "r1"], rfl, some "u32", some ⟨"r1", none, some "4*(n+1)]", false⟩⟩
    rfl ⟨by decide +kernel, by simpa using address⟩ (by decide +kernel) (by decide) rfl

end Assembly

end IssueTiming
