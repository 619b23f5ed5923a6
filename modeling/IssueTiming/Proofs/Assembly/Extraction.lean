import IssueTiming.Proofs.Assembly.LoopLines

/-!
# Where a loop is cut out

The listing is divided at the first line that defines the label and at the first
later line that branches back to it. Nothing else decides what is cut out, and
all lines but that of the label come out as they stand.
-/

namespace IssueTiming.Assembly

/-! ## First positions -/

/-- The first position, from a given one on, at which a line passes a test. -/
structure FirstAt (test : String → Prop) (lines : List String) (start position : Nat) : Prop where
  start_le : start ≤ position
  passes : ∃ line ∈ lines[position]?, test line
  earlier : ∀ before line, start ≤ before → before < position → lines[before]? = some line →
    ¬test line

theorem eq_take_append_drop {lines : List String} {position : Nat} {line : String}
    (found : lines[position]? = some line) :
    lines = lines.take position ++ line :: lines.drop (position + 1) := by
  rcases List.getElem?_eq_some_iff.mp found with ⟨inside, rfl⟩
  rw [List.getElem_cons_drop, List.take_append_drop]

/-- No line between the start and the first position passes the test. -/
theorem firstAt_iff (test : String → Prop) (lines : List String) (start position : Nat) :
    FirstAt test lines start position ↔
      start ≤ position ∧ (∃ line ∈ lines[position]?, test line) ∧
        ∀ line ∈ (lines.take position).drop start, ¬test line := by
  constructor
  · intro first
    refine ⟨first.start_le, first.passes, ?_⟩
    intro line member
    rcases List.mem_iff_getElem?.mp member with ⟨offset, found⟩
    rw [List.getElem?_drop, List.getElem?_take] at found
    split at found
    · next before => exact first.earlier _ line (Nat.le_add_right _ _) before found
    · cases found
  · intro parts
    rcases parts with ⟨startLe, passes, failed⟩
    refine ⟨startLe, passes, ?_⟩
    intro before line within under found
    refine failed line (List.mem_iff_getElem?.mpr ⟨before - start, ?_⟩)
    rw [List.getElem?_drop, List.getElem?_take, Nat.add_sub_cancel' within, if_pos under, found]

/-- Where a line passes the test from a position on, a line passes it first. -/
theorem exists_firstAt_of_le {test : String → Prop} {lines : List String} {start position : Nat}
    {line : String} (startLe : start ≤ position) (found : lines[position]? = some line)
    (passes : test line) : ∃ first, FirstAt test lines start first := by
  classical
  have passing : ∃ later : Nat, start ≤ later ∧ ∃ line ∈ lines[later]?, test line :=
    ⟨position, startLe, line, found, passes⟩
  refine ⟨Nat.find passing, (Nat.find_spec passing).1, (Nat.find_spec passing).2, ?_⟩
  intro before earlier within under foundEarlier passed
  exact Nat.find_min passing under ⟨within, earlier, foundEarlier, passed⟩

theorem exists_firstAt {test : String → Prop} {lines : List String}
    (passes : ∃ line ∈ lines, test line) : ∃ position, FirstAt test lines 0 position := by
  rcases passes with ⟨line, member, passed⟩
  rcases List.mem_iff_getElem?.mp member with ⟨position, found⟩
  exact exists_firstAt_of_le (Nat.zero_le position) found passed

instance (test : String → Prop) [DecidablePred test] (lines : List String)
    (start position : Nat) : Decidable (FirstAt test lines start position) :=
  decidable_of_iff _ (firstAt_iff test lines start position).symm

/-! ## The two cuts -/

theorem splitAtLabel?_eq_none_iff (label : String) (lines : List String) :
    splitAtLabel? label.toList lines = none ↔ ∀ line ∈ lines, ¬BeginsLoop label line := by
  simp only [splitAtLabel?_eq_splitFirst?, splitFirst?_eq_none_iff, remainder?_eq_none_iff]

theorem splitAtBranch?_eq_none_iff (label : String) (lines : List String) :
    splitAtBranch? label.toList lines = none ↔ ∀ line ∈ lines, ¬BranchesBack label line := by
  simp [splitAtBranch?_eq_splitFirst?, splitFirst?_eq_none_iff, branchesTo_eq_false_iff]

section

variable {lines : List String} {label labelLine closing : String} {first last : Nat}
  {remainder : List Char}

theorem splitAtLabel?_eq_some_of_firstAt (begins : FirstAt (BeginsLoop label) lines 0 first)
    (found : lines[first]? = some labelLine) (defines : DefinesLabel label labelLine remainder) :
    splitAtLabel? label.toList lines =
      some (lines.take first, remainder, lines.drop (first + 1)) := by
  rw [splitAtLabel?_eq_splitFirst?, splitFirst?_eq_some_iff]
  refine ⟨labelLine, eq_take_append_drop found,
    (remainder?_eq_some_iff_definesLabel _ _ _).mpr defines, ?_⟩
  intro line member
  have failed := ((firstAt_iff _ _ _ _).mp begins).2.2
  exact (remainder?_eq_none_iff label line).mpr (failed line member)

theorem splitAtBranch?_eq_some_of_firstAt {start : Nat}
    (closes : FirstAt (BranchesBack label) lines start last)
    (found : lines[last]? = some closing) :
    splitAtBranch? label.toList (lines.drop start) =
      some ((lines.take last).drop start, closing, lines.drop (last + 1)) := by
  rcases (firstAt_iff _ _ _ _).mp closes with ⟨startLe, ⟨line, atLast, branches⟩, failed⟩
  rcases Option.some.inj (found.symm.trans atLast) with rfl
  rw [splitAtBranch?_eq_some_iff]
  refine ⟨?_, (branchesTo_iff_branchesBack _ _).mpr branches, ?_⟩
  · have inside := (List.getElem?_eq_some_iff.mp found).1
    conv_lhs => rw [eq_take_append_drop found]
    rw [List.drop_append_of_le_length (by simp; omega)]
  · intro line member
    exact (branchesTo_eq_false_iff label line).mpr (failed line member)

/-! ## The three outcomes -/

theorem extract_eq_notFound_iff (lines : List String) (label : String) :
    Loop.extract lines label = .error (.loopNotFound label) ↔
      ∀ line ∈ lines, ¬BeginsLoop label line := by
  rw [← splitAtLabel?_eq_none_iff]
  cases atLabel : splitAtLabel? label.toList lines with
  | none => simp [Loop.extract, atLabel]
  | some parts =>
      rcases parts with ⟨preamble, remainder, rest⟩
      cases atBranch : splitAtBranch? label.toList rest <;>
        simp [Loop.extract, atLabel, atBranch]

theorem extract_eq_notClosed_iff (begins : FirstAt (BeginsLoop label) lines 0 first)
    (found : lines[first]? = some labelLine) (defines : DefinesLabel label labelLine remainder) :
    Loop.extract lines label = .error (.loopNotClosed label) ↔
      ∀ position line, first < position → lines[position]? = some line →
        ¬BranchesBack label line := by
  have atLabel := splitAtLabel?_eq_some_of_firstAt begins found defines
  have notClosed : Loop.extract lines label = .error (.loopNotClosed label) ↔
      splitAtBranch? label.toList (lines.drop (first + 1)) = none := by
    cases atBranch : splitAtBranch? label.toList (lines.drop (first + 1)) <;>
      simp [Loop.extract, atLabel, atBranch]
  rw [notClosed, splitAtBranch?_eq_none_iff]
  constructor
  · intro absent position line later atPosition
    refine absent line (List.mem_iff_getElem?.mpr ⟨position - (first + 1), ?_⟩)
    rw [List.getElem?_drop, Nat.add_sub_cancel' later, atPosition]
  · intro absent line member
    rcases List.mem_iff_getElem?.mp member with ⟨offset, atOffset⟩
    rw [List.getElem?_drop] at atOffset
    exact absent _ line (by omega) atOffset

theorem extract_eq_ok_of_firstAt (begins : FirstAt (BeginsLoop label) lines 0 first)
    (found : lines[first]? = some labelLine) (defines : DefinesLabel label labelLine remainder)
    (closes : FirstAt (BranchesBack label) lines (first + 1) last)
    (foundClosing : lines[last]? = some closing) :
    Loop.extract lines label = .ok {
      label
      preamble := lines.take first
      body := (if remainder = [] then [] else [String.ofList remainder]) ++
        (lines.take last).drop (first + 1)
      closingBranch := closing
      postamble := lines.drop (last + 1) } := by
  have atLabel := splitAtLabel?_eq_some_of_firstAt begins found defines
  have atBranch := splitAtBranch?_eq_some_of_firstAt closes foundClosing
  simp only [Loop.extract, atLabel, atBranch]
  cases remainder <;> simp

end

/-! ## Putting the body back -/

namespace Loop.StandsIn

variable {loop : Loop} {labelLine : String} {remainder : List Char} {inner lines : List String}

/-- Where a label and a colon alone begin a loop, no remainder enters its body. -/
theorem body_eq_of_bare (stands : loop.StandsIn labelLine remainder inner lines)
    (bare : labelLine = loop.label ++ ":") : loop.body = inner := by
  have alone := stands.defined
  rw [bare, remainder?_append_colon stands.labelled] at alone
  simp [stands.body, ← Option.some.inj alone]

/-- The listing comes back exactly when nothing stands beside the label and its
colon. -/
theorem reassemble_eq_iff (stands : loop.StandsIn labelLine remainder inner lines) :
    loop.reassemble loop.body = lines ↔ labelLine = loop.label ++ ":" := by
  rw [stands.divided]
  constructor
  · intro same
    simp only [Loop.reassemble, List.append_assoc, List.append_cancel_left_eq,
      List.cons_append, List.cons.injEq] at same
    exact same.1.symm
  · intro bare
    rw [Loop.reassemble, stands.body_eq_of_bare bare, bare]

/-- A body holds a branch back exactly when the remainder is one. -/
theorem forall_body_iff (stands : loop.StandsIn labelLine remainder inner lines) :
    (∀ line ∈ loop.body, ¬BranchesBack loop.label line) ↔
      ¬BranchesBack loop.label (String.ofList remainder) := by
  have openInner : ∀ line ∈ inner, ¬BranchesBack loop.label line := fun line member =>
    (branchesTo_eq_false_iff _ _).mp (stands.openBefore line member)
  rw [stands.body]
  cases remainder with
  | nil =>
      have openEmpty : ¬BranchesBack loop.label "" := (branchesTo_eq_false_iff _ _).mp rfl
      exact iff_of_true openInner openEmpty
  | cons head tail =>
      rw [List.isEmpty_cons, if_neg Bool.false_ne_true, List.forall_mem_cons]
      exact and_iff_left openInner

/-- A loop around its own body is found again exactly when the body holds no
branch back. -/
theorem extract_reassemble_iff (stands : loop.StandsIn labelLine remainder inner lines) :
    Loop.extract (loop.reassemble loop.body) loop.label = .ok loop ↔
      ∀ line ∈ loop.body, ¬BranchesBack loop.label line := by
  constructor
  · intro found line member
    rcases (extract_eq_ok_iff _ _ _).mp found with ⟨-, standing, rest, kept, again⟩
    rw [again.body_eq_of_bare (again.reassemble_eq_iff.mp rfl)] at member
    exact (branchesTo_eq_false_iff _ _).mp (again.openBefore line member)
  · intro openBody
    have extracted : Loop.extract lines loop.label = .ok loop :=
      (extract_eq_ok_iff _ _ _).mpr ⟨rfl, labelLine, remainder, inner, stands⟩
    exact extract_reassemble extracted fun line member =>
      (branchesTo_eq_false_iff _ _).mpr (openBody line member)

end Loop.StandsIn

theorem extract_partition (lines : List String) (label : String) :
    (Loop.extract lines label = .error (.loopNotFound label) ↔
      ∀ line ∈ lines, ¬BeginsLoop label line) ∧
    (isLabel label.toList = false → Loop.extract lines label = .error (.loopNotFound label)) ∧
    ∀ first labelLine remainder, FirstAt (BeginsLoop label) lines 0 first →
      lines[first]? = some labelLine → DefinesLabel label labelLine remainder →
      (Loop.extract lines label = .error (.loopNotClosed label) ↔
        ∀ position line, first < position → lines[position]? = some line →
          ¬BranchesBack label line) ∧
      ∀ last closing, FirstAt (BranchesBack label) lines (first + 1) last →
        lines[last]? = some closing →
        ∃ loop, Loop.extract lines label = .ok loop ∧ loop.label = label ∧
          loop.preamble = lines.take first ∧ loop.closingBranch = closing ∧
          loop.postamble = lines.drop (last + 1) ∧
          loop.body = (if remainder = [] then [] else [String.ofList remainder]) ++
            (lines.take last).drop (first + 1) ∧
          (loop.reassemble loop.body = lines ↔ labelLine = label ++ ":") := by
  refine ⟨extract_eq_notFound_iff lines label, ?_, ?_⟩
  · intro noLabel
    rw [extract_eq_notFound_iff]
    intro line _ begins
    rcases begins with ⟨remainder, defines⟩
    simp [defines.labelled] at noLabel
  · intro first labelLine remainder begins found defines
    refine ⟨extract_eq_notClosed_iff begins found defines, ?_⟩
    intro last closing closes foundClosing
    have extracted := extract_eq_ok_of_firstAt begins found defines closes foundClosing
    refine ⟨_, extracted, rfl, rfl, rfl, rfl, rfl, ?_⟩
    rcases (extract_eq_ok_iff _ _ _).mp extracted with ⟨-, standing, _, inner, stands⟩
    have divided := stands.divided.symm.trans (eq_take_append_drop found)
    have same : standing = labelLine ∧
        inner ++ closing :: lines.drop (last + 1) = lines.drop (first + 1) := by
      simpa using divided
    rw [stands.reassemble_eq_iff, same.1]

/-- The branch in front, the second definition of the label and the branch to
another one divide nothing. -/
theorem extract_partition_redefined :
    let lines := ["b start", "outer: nop", "start : LDR x3, [x1] // load", "start:", "b outer",
      "CBNZ x0, start", "ret"]
    FirstAt (BeginsLoop "start") lines 0 2 ∧ FirstAt (BranchesBack "start") lines 3 5 ∧
      Loop.extract lines "start" = .ok ⟨"start", ["b start", "outer: nop"],
        ["LDR x3, [x1]", "start:", "b outer"], "CBNZ x0, start", ["ret"]⟩ := by
  intro lines
  have begins : FirstAt (BeginsLoop "start") lines 0 2 := by decide +kernel
  have closes : FirstAt (BranchesBack "start") lines 3 5 := by decide +kernel
  have defines : DefinesLabel "start" "start : LDR x3, [x1] // load" "LDR x3, [x1]".toList := by
    decide +kernel
  rcases ((extract_partition lines "start").2.2 2 _ _ begins rfl defines).2 5 _ closes rfl with
    ⟨loop, extracted, label, preamble, closingBranch, postamble, body, -⟩
  have cut : loop = ⟨"start", ["b start", "outer: nop"], ["LDR x3, [x1]", "start:", "b outer"],
      "CBNZ x0, start", ["ret"]⟩ := by
    rcases loop with ⟨_, _, _, _, _⟩
    subst label preamble closingBranch postamble body
    rfl
  exact ⟨begins, closes, cut ▸ extracted⟩

/-- What closes a loop is the first line after that of the label that branches
back. Code after the colon of the label enters the body unexamined, so a loop
whose body was cut out is found again exactly when this code is no such branch. -/
theorem extract_reassemble_eq_iff (lines : List String) (label : String) (loop : Loop)
    (extracted : Loop.extract lines label = .ok loop) :
    ∃ labelLine remainder inner,
      lines = loop.preamble ++ labelLine :: inner ++ loop.closingBranch :: loop.postamble ∧
      (∀ line ∈ loop.preamble, ¬BeginsLoop label line) ∧
      DefinesLabel label labelLine remainder ∧
      loop.body = (if remainder = [] then [] else [String.ofList remainder]) ++ inner ∧
      (∀ line ∈ inner, ¬BranchesBack label line) ∧ BranchesBack label loop.closingBranch ∧
      ((∀ line ∈ loop.body, ¬BranchesBack label line) ↔
        ¬BranchesBack label (String.ofList remainder)) ∧
      (Loop.extract (loop.reassemble loop.body) label = .ok loop ↔
        ¬BranchesBack label (String.ofList remainder)) := by
  rcases (extract_eq_ok_iff _ _ _).mp extracted with ⟨rfl, labelLine, remainder, inner, stands⟩
  have defines := (remainder?_eq_some_iff_definesLabel _ _ _).mp stands.defined
  refine ⟨labelLine, remainder, inner, stands.divided, ?_, defines, ?_, ?_, ?_,
    stands.forall_body_iff, stands.extract_reassemble_iff.trans stands.forall_body_iff⟩
  · exact fun line member => (remainder?_eq_none_iff _ _).mp (stands.undefinedBefore line member)
  · rw [stands.body]
    cases remainder <;> simp
  · exact fun line member => (branchesTo_eq_false_iff _ _).mp (stands.openBefore line member)
  · exact (branchesTo_iff_branchesBack _ _).mp stands.closed

theorem extract_reassemble_eq_iff_load :
    let loop : Loop := ⟨"start", ["nop"], ["ldr x3, [x1]", "b other"], "b start", ["ret"]⟩
    Loop.extract ["nop", "start: ldr x3, [x1]", "b other", "b start", "ret"] "start" = .ok loop ∧
      Loop.extract (loop.reassemble loop.body) "start" = .ok loop := by
  intro loop
  have extracted : Loop.extract ["nop", "start: ldr x3, [x1]", "b other", "b start", "ret"]
      "start" = .ok loop := rfl
  rcases extract_reassemble_eq_iff _ _ loop extracted with
    ⟨labelLine, remainder, inner, -, -, -, -, -, -, bodyOpen, again⟩
  have openBody : ∀ line ∈ loop.body, ¬BranchesBack "start" line := by decide +kernel
  exact ⟨extracted, again.mpr (bodyOpen.mp openBody)⟩

/-- A branch back beside the label stays in the body, where it closes the loop once
the listing is put together again. -/
theorem extract_keeps_branch_beside_label :
    let loop : Loop := ⟨"start", [], ["b start", "nop"], "bnz start", []⟩
    Loop.extract ["start: b start", "nop", "bnz start"] "start" = .ok loop ∧
      "b start" ∈ loop.body ∧ BranchesBack "start" "b start" ∧
      Loop.extract (loop.reassemble loop.body) "start" =
        .ok ⟨"start", [], [], "b start", ["nop", "bnz start"]⟩ := by
  intro loop
  have branches : BranchesBack "start" "b start" := by decide +kernel
  have again : Loop.extract (loop.reassemble loop.body) "start" =
      .ok ⟨"start", [], [], "b start", ["nop", "bnz start"]⟩ :=
    (extract_eq_ok_iff _ _ _).mpr
      ⟨rfl, "start" ++ ":", [], [], rfl, by decide +kernel, by simp, by decide, by simp, rfl⟩
  exact ⟨rfl, List.mem_cons_self, branches, again⟩

end IssueTiming.Assembly
