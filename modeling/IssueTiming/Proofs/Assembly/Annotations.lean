import IssueTiming.Proofs.Assembly.Extraction
import IssueTiming.Proofs.Assembly.LineReading
import IssueTiming.Proofs.Assembly.Listings

/-!
# Comments that are added

A line may be given a comment behind what it says, after whatever comment it has. Its code
stays the same, and so does all that is read from it: its candidates or the reasons why it
has none, its place in a listing, and where a loop begins and ends.
-/

namespace IssueTiming.Assembly

open Text

/-- The line as it stands, or with a comment behind it. Before two slashes there is a blank,
since the line may end in a slash. -/
inductive Annotated (line : String) : String → Prop
  | bare : Annotated line line
  | behindAt (comment : String) : Annotated line (line ++ "@" ++ comment)
  | behindSlashes (comment : String) : Annotated line (line ++ " //" ++ comment)

variable {lines others : List String}

theorem Annotated.code_eq {line other : String} (annotated : Annotated line other) :
    code other.toList = code line.toList := by
  cases annotated with
  | bare => rfl
  | behindAt comment =>
      have inert : Blank (beforeComment ('@' :: comment.toList)) := by simp [beforeComment]
      simpa using code_append inert (by simp) line.toList
  | behindSlashes comment =>
      have inert : Blank (beforeComment (' ' :: '/' :: '/' :: comment.toList)) := by
        rw [beforeComment_cons (by decide) (by simp)]
        simp [beforeComment, isBlank, blankRanges]
      simpa using code_append inert (by simp) line.toList

/-! ## Lines and listings -/

theorem parseLine_eq_of_code_eq (dialect : Dialect) {line other : String}
    (same : code other.toList = code line.toList) :
    parseLine dialect other = parseLine dialect line := by
  simp only [parseLine, same]

/-- The same reading of a line with another comment. -/
structure ParsedLine.Annotated (line other : ParsedLine) : Prop where
  number : other.number = line.number
  text : Assembly.Annotated line.text other.text
  candidates : other.candidates = line.candidates

theorem parseListingFrom_annotated (dialect : Dialect)
    (annotated : List.Forall₂ Annotated lines others) (number : Nat) :
    EndAlike Eq (List.Forall₂ ParsedLine.Annotated) (parseListingFrom dialect number lines)
      (parseListingFrom dialect number others) := by
  induction annotated generalizing number with
  | nil => exact .ok .nil
  | @cons line other lines others first rest induction =>
      have vacant : isVacant other = isVacant line := by rw [isVacant, first.code_eq, isVacant]
      rw [parseListingFrom, parseListingFrom, vacant, parseLine_eq_of_code_eq _ first.code_eq]
      split
      · exact induction (number + 1)
      cases parseLine dialect line with
      | error fault => exact .error rfl
      | ok candidates =>
          exact (induction (number + 1)).map fun parsed otherParsed related =>
            .cons ⟨rfl, first, rfl⟩ related

/-! ## Loops -/

theorem definesLabel_iff_of_code_eq {line other : String}
    (same : code other.toList = code line.toList) (label : String) (remainder : List Char) :
    DefinesLabel label other remainder ↔ DefinesLabel label line remainder := by
  rw [← remainder?_eq_some_iff_definesLabel, ← remainder?_eq_some_iff_definesLabel, remainder?,
    remainder?, definedLabel?, definedLabel?, same]

theorem branchesBack_iff_of_code_eq {line other : String}
    (same : code other.toList = code line.toList) (label : String) :
    BranchesBack label other ↔ BranchesBack label line := by
  rw [← branchesTo_iff_branchesBack, ← branchesTo_iff_branchesBack, branchesTo, branchesTo, same]

theorem exists_related_getElem? {related : String → String → Prop}
    (each : List.Forall₂ related lines others) {position : Nat} {line : String}
    (found : lines[position]? = some line) :
    ∃ other, others[position]? = some other ∧ related line other := by
  induction each generalizing position with
  | nil => simp at found
  | @cons head other rest others first each induction =>
      cases position with
      | zero =>
          rcases Option.some.inj found with rfl
          exact ⟨other, rfl, first⟩
      | succ position => exact induction found

theorem FirstAt.of_forall₂ {test : String → Prop} {related : String → String → Prop}
    (agree : ∀ line other, related line other → (test other ↔ test line))
    (each : List.Forall₂ related lines others) {start position : Nat}
    (first : FirstAt test lines start position) : FirstAt test others start position := by
  refine ⟨first.start_le, ?_, ?_⟩
  · rcases first.passes with ⟨line, found, passed⟩
    rcases exists_related_getElem? each found with ⟨other, foundOther, both⟩
    exact ⟨other, foundOther, (agree line other both).mpr passed⟩
  · intro before other within under foundOther passedOther
    rcases exists_related_getElem? each.flip foundOther with ⟨line, found, both⟩
    exact first.earlier before line within under found ((agree line other both).mp passedOther)

theorem firstAt_iff_of_forall₂ {test : String → Prop} {related : String → String → Prop}
    (agree : ∀ line other, related line other → (test other ↔ test line))
    (each : List.Forall₂ related lines others) (start position : Nat) :
    FirstAt test others start position ↔ FirstAt test lines start position :=
  ⟨fun first => first.of_forall₂ (fun other line both => (agree line other both).symm) each.flip,
    fun first => first.of_forall₂ agree each⟩

/-- The loop is cut out of a listing at two positions: that of a line that defines its label,
with the given code after the colon, and that of its closing branch. -/
structure Loop.CutAt (loop : Loop) (lines : List String) (first last : Nat)
    (remainder : List Char) : Prop where
  defines : ∃ line ∈ lines[first]?, DefinesLabel loop.label line remainder
  order : first < last
  closing : lines[last]? = some loop.closingBranch
  preamble : loop.preamble = lines.take first
  body : loop.body = (if remainder = [] then [] else [String.ofList remainder]) ++
    (lines.take last).drop (first + 1)
  postamble : loop.postamble = lines.drop (last + 1)

/-- Two loops of one label, each cut out of its listing at the same positions. -/
structure Loop.CutAlike (lines others : List String) (loop other : Loop) : Prop where
  label : other.label = loop.label
  cut : ∃ first last remainder,
    loop.CutAt lines first last remainder ∧ other.CutAt others first last remainder

theorem extract_eq_notFound_of_forall_not_firstAt {label : String}
    (never : ∀ first, ¬FirstAt (BeginsLoop label) lines 0 first) :
    Loop.extract lines label = .error (.loopNotFound label) := by
  rw [extract_eq_notFound_iff]
  intro line member begins
  rcases exists_firstAt ⟨line, member, begins⟩ with ⟨first, isFirst⟩
  exact never first isFirst

section

variable {label labelLine : String} {remainder : List Char} {first last : Nat}

theorem extract_eq_notClosed_of_forall_not_firstAt
    (begins : FirstAt (BeginsLoop label) lines 0 first) (found : lines[first]? = some labelLine)
    (defines : DefinesLabel label labelLine remainder)
    (never : ∀ last, ¬FirstAt (BranchesBack label) lines (first + 1) last) :
    Loop.extract lines label = .error (.loopNotClosed label) := by
  rw [extract_eq_notClosed_iff begins found defines]
  intro position line later atPosition branches
  rcases exists_firstAt_of_le later atPosition branches with ⟨last, isFirst⟩
  exact never last isFirst

theorem exists_cutAt_of_firstAt (begins : FirstAt (BeginsLoop label) lines 0 first)
    (found : lines[first]? = some labelLine) (defines : DefinesLabel label labelLine remainder)
    (closes : FirstAt (BranchesBack label) lines (first + 1) last) :
    ∃ loop, Loop.extract lines label = .ok loop ∧ loop.label = label ∧
      loop.CutAt lines first last remainder := by
  rcases closes.passes with ⟨closing, foundClosing, -⟩
  have extracted := extract_eq_ok_of_firstAt begins found defines closes foundClosing
  exact ⟨_, extracted, rfl, ⟨labelLine, found, defines⟩, closes.start_le, foundClosing,
    rfl, rfl, rfl⟩

end

theorem extract_annotated (annotated : List.Forall₂ Annotated lines others) (label : String) :
    EndAlike Eq (Loop.CutAlike lines others) (Loop.extract lines label)
      (Loop.extract others label) := by
  have defineAlike : ∀ line other, Annotated line other → ∀ remainder,
      (DefinesLabel label other remainder ↔ DefinesLabel label line remainder) :=
    fun line other both => definesLabel_iff_of_code_eq both.code_eq label
  have beginAlike : ∀ first, FirstAt (BeginsLoop label) others 0 first ↔
      FirstAt (BeginsLoop label) lines 0 first :=
    firstAt_iff_of_forall₂ (fun line other both => exists_congr (defineAlike line other both))
      annotated 0
  have closeAlike : ∀ start last, FirstAt (BranchesBack label) others start last ↔
      FirstAt (BranchesBack label) lines start last :=
    firstAt_iff_of_forall₂ (fun line other both => branchesBack_iff_of_code_eq both.code_eq label)
      annotated
  by_cases begun : ∃ first, FirstAt (BeginsLoop label) lines 0 first
  · rcases begun with ⟨first, begins⟩
    have otherBegins := (beginAlike first).mpr begins
    rcases begins.passes with ⟨labelLine, found, remainder, defines⟩
    rcases exists_related_getElem? annotated found with ⟨otherLine, foundOther, both⟩
    have otherDefines := (defineAlike labelLine otherLine both remainder).mpr defines
    by_cases closed : ∃ last, FirstAt (BranchesBack label) lines (first + 1) last
    · rcases closed with ⟨last, closes⟩
      have otherCloses := (closeAlike (first + 1) last).mpr closes
      rcases exists_cutAt_of_firstAt begins found defines closes with
        ⟨loop, extracted, loopLabel, cut⟩
      rcases exists_cutAt_of_firstAt otherBegins foundOther otherDefines otherCloses with
        ⟨other, otherExtracted, otherLabel, otherCut⟩
      rw [extracted, otherExtracted]
      exact .ok ⟨otherLabel.trans loopLabel.symm, first, last, remainder, cut, otherCut⟩
    · push Not at closed
      have otherNever : ∀ last, ¬FirstAt (BranchesBack label) others (first + 1) last := by
        simpa only [closeAlike] using closed
      rw [extract_eq_notClosed_of_forall_not_firstAt begins found defines closed,
        extract_eq_notClosed_of_forall_not_firstAt otherBegins foundOther otherDefines otherNever]
      exact .error rfl
  · push Not at begun
    have otherNever : ∀ first, ¬FirstAt (BeginsLoop label) others 0 first := by
      simpa only [beginAlike] using begun
    rw [extract_eq_notFound_of_forall_not_firstAt begun,
      extract_eq_notFound_of_forall_not_firstAt otherNever]
    exact .error rfl

/-- Comments are removed once and for all, and a comment that is added changes neither what
is read from a line or a listing nor where a loop is cut out. -/
theorem comments_inert :
    (∀ line, stripComment (stripComment line) = stripComment line ∧
      CommentFree (stripComment line).toList ∧ Trimmed (stripComment line).toList) ∧
    (∀ dialect line other, Annotated line other →
      parseLine dialect other = parseLine dialect line) ∧
    ∀ lines others, List.Forall₂ Annotated lines others →
      (∀ dialect, EndAlike Eq (List.Forall₂ ParsedLine.Annotated) (parseListing dialect lines)
        (parseListing dialect others)) ∧
      ∀ label, EndAlike Eq (Loop.CutAlike lines others) (Loop.extract lines label)
        (Loop.extract others label) := by
  refine ⟨?_, ?_, ?_⟩
  · intro line
    have free := commentFree_code line.toList
    have trimmed := trimmed_code line.toList
    refine ⟨?_, ?_, ?_⟩
    · rw [stripComment, stripComment, String.toList_ofList, free.code_eq trimmed]
    · rwa [stripComment, String.toList_ofList]
    · rwa [stripComment, String.toList_ofList]
  · intro dialect line other annotated
    exact parseLine_eq_of_code_eq dialect annotated.code_eq
  · intro lines others annotated
    refine ⟨?_, extract_annotated annotated⟩
    intro dialect
    exact parseListingFrom_annotated dialect annotated 1

/-- The labels, branches and brackets in the comments are not looked at. -/
theorem comments_inert_branches :
    let lines := ["b start", "start : ldr x3, [x1] // load", "nop", "cbnz x0, start", "ret"]
    let others := ["b start@start:", "start : ldr x3, [x1] // load // b start", "nop",
      "cbnz x0, start //, other", "ret@ ["]
    let loop : Loop := ⟨"start", ["b start"], ["ldr x3, [x1]", "nop"], "cbnz x0, start", ["ret"]⟩
    let other : Loop := ⟨"start", ["b start@start:"], ["ldr x3, [x1]", "nop"],
      "cbnz x0, start //, other", ["ret@ ["]⟩
    Loop.extract lines "start" = .ok loop ∧ Loop.extract others "start" = .ok other ∧
      Loop.CutAlike lines others loop other ∧
      parseLine neon "nop // start: b [" = parseLine neon "nop" := by
  intro lines others loop other
  have annotated : List.Forall₂ Annotated lines others :=
    .cons (.behindAt "start:") (.cons (.behindSlashes " b start") (.cons .bare
      (.cons (.behindSlashes ", other") (.cons (.behindAt " [") .nil))))
  have extracted : Loop.extract lines "start" = .ok loop := rfl
  have otherExtracted : Loop.extract others "start" = .ok other := rfl
  have alike := (comments_inert.2.2 lines others annotated).2 "start"
  rw [extracted, otherExtracted] at alike
  cases alike with
  | ok cutAlike =>
      exact ⟨rfl, rfl, cutAlike, comments_inert.2.1 neon "nop" _ (.behindSlashes " start: b [")⟩

end IssueTiming.Assembly
