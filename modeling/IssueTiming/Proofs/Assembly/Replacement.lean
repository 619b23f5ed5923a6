import IssueTiming.Proofs.Assembly.Extraction

/-!
# Another body in the place of a loop's own

A loop is put together with a body of arbitrary lines and cut out again. The label
is found where it was, since no line in front of it defines it and what the body
defines comes later. What closes the loop is the first branch back behind the label:
the loop's own, unless the body brings one.
-/

namespace IssueTiming.Assembly

section

variable {lines : List String} {label : String} {loop : Loop} {body : List String}

/-- A body that brings a branch back is cut off at the first. What follows this branch
stands behind the loop then, together with the loop's own branch. -/
theorem extract_reassemble_of_firstAt (extracted : Loop.extract lines label = .ok loop)
    {position : Nat} {closing : String} (closes : FirstAt (BranchesBack label) body 0 position)
    (found : body[position]? = some closing) :
    Loop.extract (loop.reassemble body) label =
      .ok ⟨label, loop.preamble, body.take position, closing,
        body.drop (position + 1) ++ loop.closingBranch :: loop.postamble⟩ := by
  rcases (extract_eq_ok_iff _ _ _).mp extracted with ⟨rfl, labelLine, remainder, inner, stands⟩
  rcases (firstAt_iff _ _ _ _).mp closes with ⟨-, ⟨line, atPosition, branches⟩, failed⟩
  rcases Option.some.inj (found.symm.trans atPosition) with rfl
  refine stands.extract_reassemble_of_divided ?_ ((branchesTo_iff_branchesBack _ _).mpr branches) ?_
  · conv_lhs => rw [eq_take_append_drop found]
    rw [List.append_assoc, List.cons_append]
  · intro line member
    exact (branchesTo_eq_false_iff _ _).mpr (failed line member)

/-- A body is cut out again as it stands exactly when it holds no branch back. -/
theorem extract_reassemble_eq_self_iff (extracted : Loop.extract lines label = .ok loop) :
    Loop.extract (loop.reassemble body) label = .ok { loop with body } ↔
      ∀ line ∈ body, ¬BranchesBack label line := by
  constructor
  · intro survives
    by_contra branches
    push Not at branches
    rcases exists_firstAt branches with ⟨position, closes⟩
    rcases closes.passes with ⟨closing, found, -⟩
    have cutOff := extract_reassemble_of_firstAt extracted closes found
    have shorter : body = body.take position :=
      congrArg Loop.body (Except.ok.inj (survives.symm.trans cutOff))
    have beyond : body.length ≤ position := List.take_eq_self_iff body |>.mp shorter.symm
    rw [List.getElem?_eq_none beyond] at found
    cases found
  · intro openBody
    exact extract_reassemble extracted fun line member =>
      (branchesTo_eq_false_iff _ _).mpr (openBody line member)

end

/-- Another body survives in the place of a loop's own exactly when it holds no branch
back; the first branch that it holds closes the loop. -/
theorem extract_reassemble_body (lines : List String) (label : String) (loop : Loop)
    (extracted : Loop.extract lines label = .ok loop) (body : List String) :
    (Loop.extract (loop.reassemble body) label = .ok { loop with body } ↔
      ∀ line ∈ body, ¬BranchesBack label line) ∧
    ((∃ line ∈ body, BranchesBack label line) →
      ∃ position, FirstAt (BranchesBack label) body 0 position) ∧
    ∀ position closing, FirstAt (BranchesBack label) body 0 position →
      body[position]? = some closing →
      Loop.extract (loop.reassemble body) label = .ok {
        label := loop.label
        preamble := loop.preamble
        body := body.take position
        closingBranch := closing
        postamble := body.drop (position + 1) ++ loop.closingBranch :: loop.postamble } := by
  refine ⟨extract_reassemble_eq_self_iff extracted, exists_firstAt, ?_⟩
  intro position closing closes found
  rw [((extract_eq_ok_iff _ _ _).mp extracted).1]
  exact extract_reassemble_of_firstAt extracted closes found

/-- The body defines the label once more and branches to another one before it
branches back. -/
theorem extract_reassemble_body_redefined :
    let loop : Loop := ⟨"start", ["mov x0, 8"], ["ldr x3, [x1]"], "cbnz x0, start", ["ret"]⟩
    let body := ["start: nop", "b other // start", "LE lr, start @ back", "b start"]
    Loop.extract ["mov x0, 8", "start: ldr x3, [x1]", "cbnz x0, start", "ret"] "start" = .ok loop ∧
      FirstAt (BranchesBack "start") body 0 2 ∧
      Loop.extract (loop.reassemble body) "start" = .ok ⟨"start", ["mov x0, 8"],
        ["start: nop", "b other // start"], "LE lr, start @ back",
        ["b start", "cbnz x0, start", "ret"]⟩ ∧
      Loop.extract (loop.reassemble (body.take 2)) "start" =
        .ok { loop with body := body.take 2 } := by
  intro loop body
  have extracted : Loop.extract ["mov x0, 8", "start: ldr x3, [x1]", "cbnz x0, start", "ret"]
      "start" = .ok loop := rfl
  have closes : FirstAt (BranchesBack "start") body 0 2 := by decide +kernel
  have openBody : ∀ line ∈ body.take 2, ¬BranchesBack "start" line := by decide +kernel
  have cutOff := (extract_reassemble_body _ _ loop extracted body).2.2 2 _ closes rfl
  have survives := (extract_reassemble_body _ _ loop extracted (body.take 2)).1.mpr openBody
  exact ⟨extracted, closes, cutOff, survives⟩

end IssueTiming.Assembly
