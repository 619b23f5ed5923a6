import Mathlib

/-!
# Chains of checks

A chain of checks succeeds exactly when every check in it does. Two chains whose checks end
alike end alike.
-/

namespace IssueTiming

variable {Failure First Second : Type}

theorem bind_eq_ok_iff (check : Except Failure First) (next : First → Except Failure Second)
    (result : Second) :
    (check >>= next) = .ok result ↔ ∃ value, check = .ok value ∧ next value = .ok result := by
  cases check with
  | error failure => simp [bind, Except.bind]
  | ok value => simp [bind, Except.bind]

theorem bind_eq_error_iff (check : Except Failure First) (next : First → Except Failure Second)
    (failure : Failure) :
    (check >>= next) = .error failure ↔
      check = .error failure ∨ ∃ value, check = .ok value ∧ next value = .error failure := by
  cases check with
  | error found => simp [bind, Except.bind]
  | ok value => simp [bind, Except.bind]

theorem map_eq_ok_iff (transform : First → Second) (check : Except Failure First)
    (result : Second) :
    check.map transform = .ok result ↔ ∃ value, check = .ok value ∧ transform value = result := by
  cases check with
  | error failure => simp [Except.map]
  | ok value => simp [Except.map]

theorem map_eq_error_iff (transform : First → Second) (check : Except Failure First)
    (failure : Failure) : check.map transform = .error failure ↔ check = .error failure := by
  cases check with
  | error found => simp [Except.map]
  | ok value => simp [Except.map]

theorem toOption_eq_some_iff (check : Except Failure First) (result : First) :
    check.toOption = some result ↔ check = .ok result := by
  cases check with
  | error failure => simp [Except.toOption]
  | ok value => simp [Except.toOption]

/-! ## Two chains side by side -/

/-- Two checks that end alike: both fail, with related failures, or both succeed, with
related results. -/
inductive EndAlike (failed : Failure → Failure → Prop) (succeeded : First → Second → Prop) :
    Except Failure First → Except Failure Second → Prop
  | error {left right : Failure} :
      failed left right → EndAlike failed succeeded (.error left) (.error right)
  | ok {left : First} {right : Second} :
      succeeded left right → EndAlike failed succeeded (.ok left) (.ok right)

section

variable {NextFirst NextSecond : Type} {failed : Failure → Failure → Prop}
  {succeeded : First → Second → Prop} {finished : NextFirst → NextSecond → Prop}
  {left : Except Failure First} {right : Except Failure Second}

theorem EndAlike.refl {failed : Failure → Failure → Prop} {succeeded : First → First → Prop}
    (failedSelf : ∀ failure, failed failure failure) (succeededSelf : ∀ value, succeeded value value)
    (check : Except Failure First) : EndAlike failed succeeded check check := by
  cases check with
  | error failure => exact .error (failedSelf failure)
  | ok value => exact .ok (succeededSelf value)

theorem EndAlike.bind (alike : EndAlike failed succeeded left right)
    {next : First → Except Failure NextFirst} {other : Second → Except Failure NextSecond}
    (continued : ∀ first second, succeeded first second →
      EndAlike failed finished (next first) (other second)) :
    EndAlike failed finished (left >>= next) (right >>= other) := by
  cases alike with
  | error related => exact .error related
  | ok related => exact continued _ _ related

theorem EndAlike.map (alike : EndAlike failed succeeded left right)
    {transform : First → NextFirst} {other : Second → NextSecond}
    (transformed : ∀ first second, succeeded first second →
      finished (transform first) (other second)) :
    EndAlike failed finished (left.map transform) (right.map other) := by
  cases alike with
  | error related => exact .error related
  | ok related => exact .ok (transformed _ _ related)

end

end IssueTiming
