import IssueTiming.Proofs.Assembly.Listings
import IssueTiming.Proofs.Assembly.Loops
import IssueTiming.Proofs.Assembly.RoundTrip

/-!
# Putting a loop back in another order

The body of a loop is read, its instructions are put in another order, and their
texts take the place of the body. No text of an instruction is a loop branch or
without code, so the loop is cut out of the new listing with exactly these texts
as its body, and they are read as the instructions they were rendered from.
-/

namespace IssueTiming

open Text Assembly

/-- No token of the dialect is that of a loop branch. -/
def Dialect.BranchFree (dialect : Dialect) : Prop :=
  ∀ variant ∈ dialect.variants, ∀ branch ∈ loopBranches,
    ¬lowerCase variant.mnemonic.toList <+: lowerCase branch.toList

theorem Dialect.branchFree_of_mem_builtin {dialect : Dialect} (listed : dialect ∈ builtin) :
    dialect.BranchFree := by
  unfold BranchFree
  rcases List.mem_cons.mp listed with rfl | listed
  · decide
  · rcases List.mem_singleton.mp listed with rfl
    decide

namespace Assembly

variable {dialect : Dialect} {line : List Char} {instruction : Instruction}

/-- The text of an instruction that was read is no loop branch. -/
theorem branchesTo_render (branchFree : dialect.BranchFree)
    (member : instruction ∈ accepted (readings dialect (code line))) (label : List Char) :
    branchesTo label instruction.render.toList = false := by
  have legible := Instruction.legible_of_mem_accepted member
  have listed := ((mem_accepted_iff _ _ _).mp member).1
  simp only [branchesTo, legible.splitToken_render, Bool.and_eq_false_iff]
  left
  simp only [List.any_eq_false, sameWord_iff]
  intro branch isBranch same
  apply branchFree _ listed branch isBranch
  rw [← same]
  exact (List.prefix_append _ _).map Char.toLower

/-- The text of an instruction that was read is code. -/
theorem isVacant_render (branchFree : dialect.BranchFree)
    (member : instruction ∈ accepted (readings dialect (code line))) :
    isVacant instruction.render = false := by
  have legible := Instruction.legible_of_mem_accepted member
  have listed := ((mem_accepted_iff _ _ _).mp member).1
  have visible : instruction.statement.token ≠ [] := by
    intro empty
    have unnamed : instruction.mnemonic.toList = [] := (List.append_eq_nil_iff.mp empty).1
    apply branchFree _ listed "b" (by decide)
    rw [show instruction.variant.mnemonic.toList = [] from unnamed]
    exact List.nil_prefix
  rw [isVacant, legible.code_render]
  simpa using (legible.solid_render visible).nonempty

/-- A line of a rescheduled body: it holds code, has the given candidates and
closes no loop. -/
structure Rescheduled (dialect : Dialect) (line : String) (candidates : List Instruction) :
    Prop where
  visible : isVacant line = false
  read : parseLine dialect line = .ok candidates
  stays : ∀ label, branchesTo label line.toList = false

theorem rescheduled_render (branchFree : dialect.BranchFree) {text : String}
    {candidates : List Instruction} (read : parseLine dialect text = .ok candidates)
    (member : instruction ∈ candidates) : Rescheduled dialect instruction.render candidates := by
  rcases (parseLine_eq_ok_iff _ _ _).mp read with ⟨nonempty, rfl⟩
  exact ⟨isVacant_render branchFree member,
    (parseLine_eq_ok_iff _ _ _).mpr ⟨nonempty, accepted_readings_render member⟩,
    branchesTo_render branchFree member⟩

theorem rescheduled_body (branchFree : dialect.BranchFree) {permuted : List ParsedLine}
    {chosen : List Instruction}
    (read : ∀ line ∈ permuted, parseLine dialect line.text = .ok line.candidates)
    (choice : List.Forall₂ (fun line instruction => instruction ∈ line.candidates)
      permuted chosen) :
    List.Forall₂ (Rescheduled dialect) (chosen.map Instruction.render)
      (permuted.map ParsedLine.candidates) := by
  induction choice with
  | nil => exact .nil
  | cons member choice induction =>
      rcases List.forall_mem_cons.mp read with ⟨readFirst, readRest⟩
      exact .cons (rescheduled_render branchFree readFirst member) (induction readRest)

/-- A loop of a built-in dialect whose body is read, put in another order and
rendered is the same loop with the new body, and the new body is read line by
line as what it was rendered from. -/
theorem extract_reassemble_render (dialect : Dialect) (listed : dialect ∈ Dialect.builtin)
    (lines : List String) (label : String) (loop : Loop)
    (extracted : Loop.extract lines label = .ok loop)
    (parsed : List ParsedLine) (read : parseListing dialect loop.body = .ok parsed)
    (permuted : List ParsedLine) (order : permuted.Perm parsed)
    (chosen : List Instruction)
    (choice : List.Forall₂ (fun line instruction => instruction ∈ line.candidates)
      permuted chosen) :
    let body := chosen.map Instruction.render
    Loop.extract (loop.reassemble body) label = .ok { loop with body } ∧
      ∃ result, parseListing dialect body = .ok result ∧
        result.map ParsedLine.number = List.range' 1 body.length ∧
        result.map ParsedLine.text = body ∧
        result.map ParsedLine.candidates = permuted.map ParsedLine.candidates := by
  intro body
  have branchFree := Dialect.branchFree_of_mem_builtin listed
  have lineRead : ∀ line ∈ permuted, parseLine dialect line.text = .ok line.candidates :=
    fun line member => ((parseListingFrom_eq_ok_iff _ _ _).mp read).parseLine_eq line
      (order.subset member)
  have rescheduled := rescheduled_body branchFree lineRead choice
  have stays : ∀ text ∈ body, branchesTo label.toList text.toList = false :=
    (List.forall₂_and_left body _ |>.mp
      (rescheduled.imp fun _ _ line => ⟨line.stays label.toList, line⟩)).1
  rcases exists_listingReading (rescheduled.imp fun _ _ line => ⟨line.visible, line.read⟩) 1 with
    ⟨result, reading, numbered⟩
  exact ⟨extract_reassemble extracted stays, result,
    (parseListingFrom_eq_ok_iff _ _ _).mpr reading, numbered⟩

theorem extract_reassemble_render_swapped :
    let load : Instruction := ⟨.memoryForm "ldr_x" .ldrX "ldr" none .load [.gpr] [.gpr],
      ["x3", "x1"], rfl, none, some ⟨"x1", none, none, false⟩⟩
    let sum : Instruction := ⟨.registerForm "add_x" .addX "add" none [.gpr] [] [.gpr, .gpr],
      ["x4", "x5", "x2"], rfl, none, none⟩
    let loop : Loop := ⟨"start", ["mov x0, 8"], ["LDR x3, [ x1 ]", "  add x4, x5,x2", ""],
      "cbnz x0, start", ["ret"]⟩
    Loop.extract ["mov x0, 8", "start: LDR x3, [ x1 ]  // load", "  add x4, x5,x2", "",
        "cbnz x0, start", "ret"] "start" = .ok loop ∧
      Loop.extract (loop.reassemble [sum.render, load.render]) "start" =
        .ok { loop with body := [sum.render, load.render] } ∧
      ∃ result, parseListing neon [sum.render, load.render] = .ok result ∧
        result.map ParsedLine.candidates = [[sum], [load]] := by
  intro load sum loop
  have extracted : Loop.extract ["mov x0, 8", "start: LDR x3, [ x1 ]  // load",
      "  add x4, x5,x2", "", "cbnz x0, start", "ret"] "start" = .ok loop :=
    (extract_eq_ok_iff _ _ _).mpr ⟨rfl, "start: LDR x3, [ x1 ]  // load", "LDR x3, [ x1 ]".toList,
      ["  add x4, x5,x2", ""], rfl, by decide, by decide, by decide, by decide, rfl⟩
  have readLoad : parseLine neon "LDR x3, [ x1 ]" = .ok [load] :=
    (parseLine_eq_ok_iff _ _ _).mpr ⟨by simp, by decide +kernel⟩
  have readSum : parseLine neon "  add x4, x5,x2" = .ok [sum] :=
    (parseLine_eq_ok_iff _ _ _).mpr ⟨by simp, by decide +kernel⟩
  have read : parseListing neon loop.body =
      .ok [⟨1, "LDR x3, [ x1 ]", [load]⟩, ⟨2, "  add x4, x5,x2", [sum]⟩] :=
    (parseListingFrom_eq_ok_iff _ _ _).mpr (.code (by decide) readLoad
      (.code (by decide) readSum (.vacant (by decide) (.nil 4))))
  rcases extract_reassemble_render neon (by decide) _ _ loop extracted _ read
      [⟨2, "  add x4, x5,x2", [sum]⟩, ⟨1, "LDR x3, [ x1 ]", [load]⟩] (.swap _ _ _) [sum, load]
      (.cons (by simp) (.cons (by simp) .nil)) with
    ⟨reextracted, result, reread, -, -, candidates⟩
  exact ⟨extracted, reextracted, result, reread, candidates⟩

end Assembly

end IssueTiming
