import IssueTiming.Assembly.Loop
import IssueTiming.Proofs.Assembly.Comments
import IssueTiming.Proofs.Text.Separation

/-!
# Cutting out a loop

Both ends of a loop are found by one kind of search, which divides a listing at
its first line of a kind. A loop stands in a listing when the listing is divided
at the first line that defines the label and the first later line that branches
back to it, and the loops that are cut out are exactly those that stand in the
listing.
-/

namespace IssueTiming.Assembly

open Text

/-! ## Searching from the front -/

section Search

variable {Item Found : Type}

/-- The items before the first one that passes a test, what the test found in it
and the items after it. -/
def splitFirst? (test : Item → Option Found) : List Item → Option (List Item × Found × List Item)
  | [] => none
  | head :: tail =>
      match test head with
      | some found => some ([], found, tail)
      | none => (splitFirst? test tail).map fun (before, rest) => (head :: before, rest)

theorem splitFirst?_eq_some_iff (test : Item → Option Found) (items before after : List Item)
    (found : Found) :
    splitFirst? test items = some (before, found, after) ↔
      ∃ item, items = before ++ item :: after ∧ test item = some found ∧
        ∀ earlier ∈ before, test earlier = none := by
  induction items generalizing before with
  | nil => simp [splitFirst?]
  | cons head tail induction =>
      cases passed : test head with
      | some first =>
          simp only [splitFirst?, passed, Option.some.injEq, Prod.mk.injEq]
          constructor
          · intro same
            rcases same with ⟨rfl, rfl, rfl⟩
            exact ⟨head, rfl, passed, by simp⟩
          · intro divided
            rcases divided with ⟨item, equal, passes, refused⟩
            cases before with
            | nil =>
                rcases List.cons.inj equal with ⟨rfl, rfl⟩
                exact ⟨rfl, Option.some.inj (passed.symm.trans passes), rfl⟩
            | cons next before =>
                rcases List.cons.inj equal with ⟨rfl, -⟩
                simp [refused head (by simp)] at passed
      | none =>
          simp only [splitFirst?, passed, Option.map_eq_some_iff, Prod.exists, Prod.mk.injEq]
          constructor
          · intro found
            rcases found with ⟨kept, _, _, split, rfl, rfl, rfl⟩
            rcases (induction kept).mp split with ⟨item, rfl, passes, refused⟩
            exact ⟨item, rfl, passes, List.forall_mem_cons.mpr ⟨passed, refused⟩⟩
          · intro divided
            rcases divided with ⟨item, equal, passes, refused⟩
            cases before with
            | nil =>
                rcases List.cons.inj equal with ⟨rfl, -⟩
                simp [passed] at passes
            | cons next before =>
                rcases List.cons.inj equal with ⟨rfl, rfl⟩
                have split := (induction before).mpr
                  ⟨item, rfl, passes, (List.forall_mem_cons.mp refused).2⟩
                exact ⟨before, found, after, split, rfl, rfl, rfl⟩

theorem splitFirst?_eq_none_iff (test : Item → Option Found) (items : List Item) :
    splitFirst? test items = none ↔ ∀ item ∈ items, test item = none := by
  induction items with
  | nil => simp [splitFirst?]
  | cons head tail induction =>
      cases passed : test head with
      | some found => simp [splitFirst?, passed]
      | none => simp [splitFirst?, passed, induction]

end Search

/-- The code after the colon of a line that defines the label. -/
def remainder? (label : List Char) (line : String) : Option (List Char) :=
  match definedLabel? line.toList with
  | some (found, remainder) => if found = label then some remainder else none
  | none => none

theorem splitAtLabel?_eq_splitFirst? (label : List Char) (lines : List String) :
    splitAtLabel? label lines = splitFirst? (remainder? label) lines := by
  induction lines with
  | nil => rfl
  | cons head tail induction =>
      simp only [splitAtLabel?, splitFirst?, remainder?, induction]
      cases definedLabel? head.toList with
      | none => rfl
      | some definition =>
          by_cases same : definition.1 = label
          · simp only [if_pos same]
          · simp only [if_neg same]

theorem splitAtBranch?_eq_splitFirst? (label : List Char) (lines : List String) :
    splitAtBranch? label lines =
      splitFirst? (fun line => if branchesTo label line.toList then some line else none) lines := by
  induction lines with
  | nil => rfl
  | cons head tail induction =>
      simp only [splitAtBranch?, splitFirst?, induction]
      split <;> rfl

/-! ## Loops in a listing -/

/-- A loop stands in a listing at a line that defines its label, with the given
code after the colon and the given lines up to the closing branch. -/
structure Loop.StandsIn (loop : Loop) (labelLine : String) (remainder : List Char)
    (inner lines : List String) : Prop where
  divided : lines = loop.preamble ++ labelLine :: inner ++ loop.closingBranch :: loop.postamble
  defined : remainder? loop.label.toList labelLine = some remainder
  undefinedBefore : ∀ line ∈ loop.preamble, remainder? loop.label.toList line = none
  closed : branchesTo loop.label.toList loop.closingBranch.toList = true
  openBefore : ∀ line ∈ inner, branchesTo loop.label.toList line.toList = false
  body : loop.body = if remainder.isEmpty then inner else String.ofList remainder :: inner

theorem splitAtBranch?_eq_some_iff (label : List Char) (lines before after : List String)
    (branch : String) :
    splitAtBranch? label lines = some (before, branch, after) ↔
      lines = before ++ branch :: after ∧ branchesTo label branch.toList = true ∧
        ∀ line ∈ before, branchesTo label line.toList = false := by
  rw [splitAtBranch?_eq_splitFirst?, splitFirst?_eq_some_iff]
  constructor
  · intro divided
    rcases divided with ⟨item, rfl, passes, refused⟩
    have parts : branchesTo label item.toList = true ∧ item = branch := by
      simpa using passes
    rcases parts with ⟨closes, rfl⟩
    exact ⟨rfl, closes, by simpa using refused⟩
  · intro divided
    rcases divided with ⟨rfl, closes, refused⟩
    exact ⟨branch, rfl, by simp [closes], by simpa using refused⟩

theorem extract_eq_ok_iff (lines : List String) (label : String) (loop : Loop) :
    Loop.extract lines label = .ok loop ↔
      loop.label = label ∧
        ∃ labelLine remainder inner, loop.StandsIn labelLine remainder inner lines := by
  constructor
  · intro extracted
    unfold Loop.extract at extracted
    split at extracted
    · cases extracted
    next preamble remainder rest atLabel =>
    split at extracted
    · cases extracted
    next inner closingBranch postamble atBranch =>
    rcases Except.ok.inj extracted with rfl
    rw [splitAtLabel?_eq_splitFirst?, splitFirst?_eq_some_iff] at atLabel
    rcases atLabel with ⟨labelLine, rfl, defined, undefinedBefore⟩
    rcases (splitAtBranch?_eq_some_iff _ _ _ _ _).mp atBranch with ⟨rfl, closed, openBefore⟩
    exact ⟨rfl, labelLine, remainder, inner, by simp, defined, undefinedBefore, closed,
      openBefore, rfl⟩
  · rcases loop with ⟨name, preamble, body, closingBranch, postamble⟩
    intro stands
    rcases stands with
      ⟨rfl, labelLine, remainder, inner, rfl, defined, undefinedBefore, closed, openBefore,
      rfl⟩
    have atLabel : splitAtLabel? name.toList
        (preamble ++ labelLine :: inner ++ closingBranch :: postamble) =
          some (preamble, remainder, inner ++ closingBranch :: postamble) := by
      rw [splitAtLabel?_eq_splitFirst?, splitFirst?_eq_some_iff]
      exact ⟨labelLine, by simp, defined, undefinedBefore⟩
    have atBranch : splitAtBranch? name.toList (inner ++ closingBranch :: postamble) =
        some (inner, closingBranch, postamble) :=
      (splitAtBranch?_eq_some_iff _ _ _ _ _).mpr ⟨rfl, closed, openBefore⟩
    simp only [Loop.extract, atLabel, atBranch]

/-! ## Reassembled listings -/

theorem isLabel_of_definedLabel? {line label remainder : List Char}
    (defined : definedLabel? line = some (label, remainder)) : isLabel label = true := by
  unfold definedLabel? at defined
  split at defined
  · cases defined
  next before after cut =>
  dsimp only at defined
  split at defined
  · next labelled =>
    rcases Prod.mk.inj (Option.some.inj defined) with ⟨rfl, -⟩
    exact labelled
  · cases defined

theorem remainder?_eq_some_iff (label : List Char) (line : String) (remainder : List Char) :
    remainder? label line = some remainder ↔
      definedLabel? line.toList = some (label, remainder) := by
  unfold remainder?
  cases definedLabel? line.toList with
  | none => simp
  | some definition =>
      rcases definition with ⟨found, rest⟩
      by_cases same : found = label
      · simp [same]
      · simp [same]

theorem isLabelPart_of_mem {label : List Char} (labelled : isLabel label = true)
    {character : Char} (member : character ∈ label) : isLabelPart character = true := by
  simp only [isLabel, Bool.and_eq_true, List.all_eq_true] at labelled
  exact labelled.2 character member

theorem not_mem_of_isLabel {label : List Char} (labelled : isLabel label = true)
    {character : Char} (noPart : isLabelPart character = false) : character ∉ label := by
  intro member
  simp [isLabelPart_of_mem labelled member] at noPart

theorem blankless_of_isLabel {label : List Char} (labelled : isLabel label = true) :
    Blankless label := by
  intro character member
  have part := isLabelPart_of_mem labelled member
  simp only [isLabelPart, Bool.or_eq_true, beq_iff_eq] at part
  rcases part with part | rfl
  · exact isBlank_eq_false_of_isIdentifierPart (by simpa [isIdentifierPart] using part)
  · decide

/-- A label and a colon alone define the label. -/
theorem definedLabel?_append_colon {label : List Char} (labelled : isLabel label = true) :
    definedLabel? (label ++ [':']) = some (label, []) := by
  have absent : ∀ character, isLabelPart character = false → character ∉ label :=
    fun _ => not_mem_of_isLabel labelled
  have blankless := blankless_of_isLabel labelled
  have free : CommentFree (label ++ [':']) :=
    commentFree_of_not_mem (by simpa using absent '@' rfl) (by simpa using absent '/' rfl)
  have colon : Blankless [':'] := by decide
  have trimmed : Trimmed (label ++ [':']) :=
    Blankless.trimmed (List.forall_mem_append.mpr ⟨blankless, colon⟩)
  have cut : cut? (· == ':') (label ++ [':']) = some (label, []) :=
    (cut?_char_eq_some_iff _ _ _).mpr ⟨absent ':' rfl, rfl⟩
  simp only [definedLabel?, free.code_eq trimmed, cut, blankless.trimmed.trim_eq]
  rw [if_pos labelled, trimmed_nil.trim_eq]

/-- A label and a colon alone leave no remainder. -/
theorem remainder?_append_colon {label : String} (labelled : isLabel label.toList = true) :
    remainder? label.toList (label ++ ":") = some [] := by
  rw [remainder?_eq_some_iff]
  simpa using definedLabel?_append_colon labelled

namespace Loop.StandsIn

variable {loop : Loop} {labelLine : String} {remainder : List Char} {inner lines : List String}

theorem labelled (stands : loop.StandsIn labelLine remainder inner lines) :
    isLabel loop.label.toList = true :=
  isLabel_of_definedLabel? ((remainder?_eq_some_iff _ _ _).mp stands.defined)

/-- A loop that is put together with any body is closed by the first branch back
behind the label, be it a line of the body or the loop's own closing branch. -/
theorem extract_reassemble_of_divided (stands : loop.StandsIn labelLine remainder inner lines)
    {body before after : List String} {closing : String}
    (divided : body ++ loop.closingBranch :: loop.postamble = before ++ closing :: after)
    (closed : branchesTo loop.label.toList closing.toList = true)
    (openBefore : ∀ line ∈ before, branchesTo loop.label.toList line.toList = false) :
    Loop.extract (loop.reassemble body) loop.label =
      .ok ⟨loop.label, loop.preamble, before, closing, after⟩ := by
  rw [extract_eq_ok_iff]
  refine ⟨rfl, _, [], before, ?_, remainder?_append_colon stands.labelled,
    stands.undefinedBefore, closed, openBefore, rfl⟩
  rw [reassemble, List.append_assoc, List.append_assoc, List.cons_append, List.cons_append, divided]

end Loop.StandsIn

/-- Putting another body in place of the loop's own and cutting the loop out again
gives the other body, unless it branches back to the label. -/
theorem extract_reassemble {lines : List String} {label : String} {loop : Loop}
    (extracted : Loop.extract lines label = .ok loop) {body : List String}
    (openBody : ∀ line ∈ body, branchesTo label.toList line.toList = false) :
    Loop.extract (loop.reassemble body) label = .ok { loop with body } := by
  rcases (extract_eq_ok_iff _ _ _).mp extracted with ⟨rfl, labelLine, remainder, inner, stands⟩
  exact stands.extract_reassemble_of_divided rfl stands.closed openBody

end IssueTiming.Assembly
