import IssueTiming.Proofs.Assembly.LineReading
import IssueTiming.Proofs.Assembly.Listings

/-!
# Listings in parts

A listing that is made of two is read part by part: the second part is read as it
would be alone, but for the numbers of its lines. What stands in a listing is read
line by line up to the first line with code that no variant reads.
-/

namespace IssueTiming.Assembly

/-- The line as it is numbered behind so many other lines. -/
def ParsedLine.behind (count : Nat) (line : ParsedLine) : ParsedLine :=
  { line with number := line.number + count }

theorem isVacant_eq_true_iff (line : String) : isVacant line = true ↔ stripComment line = "" := by
  simp [isVacant, stripComment]

variable {dialect : Dialect}

/-! ## One part behind the other -/

theorem parseListingFrom_append (number : Nat) (front back : List String) :
    parseListingFrom dialect number (front ++ back) = do
      let parsed ← parseListingFrom dialect number front
      let rest ← parseListingFrom dialect (number + front.length) back
      return parsed ++ rest := by
  induction front generalizing number with
  | nil =>
      cases read : parseListingFrom dialect number back with
      | error fault => simp [parseListingFrom, read, bind, Except.bind]
      | ok rest => simp [parseListingFrom, read, bind, Except.bind, pure, Except.pure]
  | cons line front induction =>
      have position : number + 1 + front.length = number + (line :: front).length := by
        rw [List.length_cons]
        omega
      rw [List.cons_append, parseListingFrom, parseListingFrom, induction, position]
      split
      · rfl
      cases parseLine dialect line with
      | error fault => rfl
      | ok candidates =>
          cases parseListingFrom dialect (number + 1) front with
          | error fault => rfl
          | ok parsed => cases parseListingFrom dialect (number + (line :: front).length) back <;> rfl

/-- What is read from a listing does not depend on where its lines stand, and their
numbers follow. -/
theorem ListingReading.behind {number : Nat} {lines : List String} {parsed : List ParsedLine}
    (reading : ListingReading dialect number lines parsed) (count : Nat) :
    ListingReading dialect (number + count) lines (parsed.map (ParsedLine.behind count)) := by
  induction reading with
  | nil number => exact .nil _
  | vacant vacant rest induction =>
      rw [Nat.add_right_comm] at induction
      exact .vacant vacant induction
  | code visible read rest induction =>
      rw [Nat.add_right_comm] at induction
      exact .code visible read induction

/-! ## The line that ends a reading -/

/-- A line that the reading of a listing goes past: one without code, or with candidates. -/
def Passed (dialect : Dialect) (line : String) : Prop :=
  stripComment line ≠ "" → ∃ candidates, parseLine dialect line = .ok candidates

/-- The listing is read up to a line with code that no variant reads, and the fault of
this line is the source of the listing's. -/
structure StopsAt (dialect : Dialect) (lines before : List String) (line : String)
    (source : Fault) : Prop where
  divided : ∃ after, lines = before ++ line :: after
  passed : ∀ earlier ∈ before, Passed dialect earlier
  visible : stripComment line ≠ ""
  refused : parseLine dialect line = .error source

theorem StopsAt.cons {lines before : List String} {line first : String} {source : Fault}
    (passed : Passed dialect first) (stops : StopsAt dialect lines before line source) :
    StopsAt dialect (first :: lines) (first :: before) line source := by
  rcases stops with ⟨⟨after, rfl⟩, passedBefore, visible, refused⟩
  exact ⟨⟨after, rfl⟩, List.forall_mem_cons.mpr ⟨passed, passedBefore⟩, visible, refused⟩

theorem parseListingFrom_eq_error_iff (number : Nat) (lines : List String) (fault : Fault) :
    parseListingFrom dialect number lines = .error fault ↔
      ∃ before line source, StopsAt dialect lines before line source ∧
        fault = .atLine (number + before.length) source := by
  constructor
  · intro failed
    induction lines generalizing number with
    | nil => cases failed
    | cons line lines induction =>
        -- Where the reading goes past the first line, it stops in the rest.
        have later : Passed dialect line →
            parseListingFrom dialect (number + 1) lines = .error fault →
            ∃ before stop source, StopsAt dialect (line :: lines) before stop source ∧
              fault = .atLine (number + before.length) source := by
          intro passed failedLater
          rcases induction _ failedLater with ⟨before, stop, source, stops, rfl⟩
          refine ⟨line :: before, stop, source, stops.cons passed, ?_⟩
          rw [List.length_cons, Nat.add_right_comm, Nat.add_assoc]
        rw [parseListingFrom] at failed
        split at failed
        · next vacant =>
          exact later (fun visible => absurd ((isVacant_eq_true_iff line).mp vacant) visible) failed
        next visible =>
        rw [isVacant_eq_true_iff] at visible
        split at failed
        · next source refused =>
          exact ⟨[], line, source, ⟨⟨lines, rfl⟩, by simp, visible, refused⟩,
            (Except.error.inj failed).symm⟩
        · next candidates read =>
          exact later (fun _ => ⟨candidates, read⟩) ((map_eq_error_iff _ _ _).mp failed)
  · intro stopped
    rcases stopped with ⟨before, line, source, ⟨⟨after, rfl⟩, passed, visible, refused⟩, rfl⟩
    induction before generalizing number with
    | nil =>
        rw [ne_eq, ← isVacant_eq_true_iff] at visible
        simp [parseListingFrom, visible, refused]
    | cons first before induction =>
        rcases List.forall_mem_cons.mp passed with ⟨passedFirst, passedBefore⟩
        have failed := induction (number + 1) passedBefore
        rw [Nat.add_right_comm, Nat.add_assoc] at failed
        rw [List.cons_append, parseListingFrom]
        split
        · exact failed
        next firstVisible =>
        rw [isVacant_eq_true_iff] at firstVisible
        rcases passedFirst firstVisible with ⟨candidates, read⟩
        rw [read]
        exact (map_eq_error_iff _ _ _).mpr failed

/-! ## What is read -/

/-- The lines of a listing that hold code, as they stand and with their positions, each
with the candidates for it. -/
structure Transcript (dialect : Dialect) (number : Nat) (lines : List String)
    (parsed : List ParsedLine) : Prop where
  entries : parsed.map (fun line => (line.text, line.number)) =
    (lines.zipIdx number).filter fun (text, _) => stripComment text != ""
  ascending : (parsed.map ParsedLine.number).Pairwise (· < ·)
  candidates : ∀ line ∈ parsed, parseLine dialect line.text = .ok line.candidates

theorem ListingReading.entries_eq {number : Nat} {lines : List String} {parsed : List ParsedLine}
    (reading : ListingReading dialect number lines parsed) :
    parsed.map (fun line => (line.text, line.number)) =
      (lines.zipIdx number).filter fun (text, _) => stripComment text != "" := by
  induction reading with
  | nil => rfl
  | vacant vacant rest induction =>
      rw [isVacant_eq_true_iff] at vacant
      simp [List.zipIdx_cons, vacant, induction]
  | code visible read rest induction =>
      rw [← Bool.not_eq_true, isVacant_eq_true_iff] at visible
      simp [List.zipIdx_cons, visible, induction]

theorem ListingReading.transcript {number : Nat} {lines : List String} {parsed : List ParsedLine}
    (reading : ListingReading dialect number lines parsed) :
    Transcript dialect number lines parsed := by
  refine ⟨reading.entries_eq, ?_, reading.parseLine_eq⟩
  have numbers : parsed.map ParsedLine.number =
      ((lines.zipIdx number).filter fun (text, _) => stripComment text != "").map Prod.snd := by
    rw [← reading.entries_eq, List.map_map]
    rfl
  have positions : ((lines.zipIdx number).map Prod.snd).Pairwise (· < ·) := by
    rw [List.zipIdx_map_snd]
    exact List.pairwise_lt_range'
  rw [numbers]
  exact positions.sublist (List.filter_sublist.map _)

/-! ## Whole listings -/

theorem parseListing_append_of_ok {front : List String} {parsed : List ParsedLine}
    (read : parseListing dialect front = .ok parsed) (back : List String) :
    parseListing dialect (front ++ back) =
      (parseListingFrom dialect (1 + front.length) back).map (parsed ++ ·) := by
  rw [parseListing, parseListingFrom_append, show parseListingFrom dialect 1 front = _ from read]
  cases parseListingFrom dialect (1 + front.length) back <;> rfl

/-- The fault of a listing names its first line with code that has no candidates, and has
the attempts at this line. -/
theorem parseListing_eq_error_iff (lines : List String) (fault : Fault) :
    parseListing dialect lines = .error fault ↔
      ∃ before line after attempts, lines = before ++ line :: after ∧
        (∀ earlier ∈ before, Passed dialect earlier) ∧ stripComment line ≠ "" ∧
        parseLine dialect line =
          .error (.noMatchingVariant dialect.name (stripComment line) attempts) ∧
        fault = .atLine (before.length + 1)
          (.noMatchingVariant dialect.name (stripComment line) attempts) ∧
        fault.attempts? = some attempts := by
  rw [parseListing, parseListingFrom_eq_error_iff]
  constructor
  · intro stopped
    rcases stopped with ⟨before, line, source, ⟨⟨after, divided⟩, passed, visible, refused⟩, rfl⟩
    rcases (parseLine_eq_error_iff _ _ _).mp refused with ⟨-, rfl⟩
    exact ⟨before, line, after, _, divided, passed, visible, refused, by rw [Nat.add_comm], rfl⟩
  · intro stopped
    rcases stopped with ⟨before, line, after, attempts, divided, passed, visible, refused, rfl, -⟩
    exact ⟨before, line, _, ⟨⟨after, divided⟩, passed, visible, refused⟩, by rw [Nat.add_comm]⟩

/-- A listing is read part by part, the second part with its numbers behind the first, and
the first fault in a part is that of the whole. What is read are the lines with code; what
ends a reading is the first of them that has no candidates. -/
theorem parseListing_append (dialect : Dialect) :
    (∀ front back : List String,
      (∀ fault, parseListing dialect front = .error fault →
        parseListing dialect (front ++ back) = .error fault) ∧
      ∀ parsed, parseListing dialect front = .ok parsed →
        (∀ number source, parseListing dialect back = .error (.atLine number source) →
          parseListing dialect (front ++ back) =
            .error (.atLine (number + front.length) source)) ∧
        ∀ rest, parseListing dialect back = .ok rest →
          parseListing dialect (front ++ back) =
            .ok (parsed ++ rest.map (ParsedLine.behind front.length))) ∧
    (∀ lines parsed, parseListing dialect lines = .ok parsed →
      Transcript dialect 1 lines parsed) ∧
    ∀ lines fault, parseListing dialect lines = .error fault ↔
      ∃ before line after attempts, lines = before ++ line :: after ∧
        (∀ earlier ∈ before, Passed dialect earlier) ∧ stripComment line ≠ "" ∧
        parseLine dialect line =
          .error (.noMatchingVariant dialect.name (stripComment line) attempts) ∧
        fault = .atLine (before.length + 1)
          (.noMatchingVariant dialect.name (stripComment line) attempts) ∧
        fault.attempts? = some attempts := by
  refine ⟨fun front back => ⟨?_, ?_⟩, ?_, ?_⟩
  · intro fault failed
    rw [parseListing, parseListingFrom_append, show parseListingFrom dialect 1 front = _ from failed]
    rfl
  · intro parsed read
    rw [parseListing_append_of_ok read back]
    constructor
    · intro number source failed
      rcases (parseListingFrom_eq_error_iff _ _ _).mp failed with ⟨before, line, _, stops, named⟩
      rcases Fault.atLine.inj named with ⟨rfl, rfl⟩
      rw [map_eq_error_iff, parseListingFrom_eq_error_iff]
      exact ⟨before, line, _, stops, by rw [Nat.add_right_comm]⟩
    · intro rest readRest
      have reading := (parseListingFrom_eq_ok_iff _ _ _).mp readRest
      rw [(parseListingFrom_eq_ok_iff _ _ _).mpr (reading.behind front.length)]
      rfl
  · intro lines parsed read
    exact ((parseListingFrom_eq_ok_iff _ _ _).mp read).transcript
  · exact parseListing_eq_error_iff

/-- The fault in the second line of the second part is one of the fifth line of the whole. -/
theorem parseListing_append_bogus :
    let front := ["", "  // head", "nop"]
    let idle : Instruction := ⟨.registerForm "nop" .nop "nop" none [] [] [], [], rfl, none, none⟩
    parseListing neon front = .ok [⟨3, "nop", [idle]⟩] ∧
      parseListing neon (front ++ ["", "nop @ tail"]) =
        .ok [⟨3, "nop", [idle]⟩, ⟨5, "nop @ tail", [idle]⟩] ∧
      ∃ source, parseListing neon ["nop", "bogus x0"] = .error (.atLine 2 source) ∧
        parseListing neon (front ++ ["nop", "bogus x0"]) = .error (.atLine 5 source) := by
  intro front idle
  have idleRead : ∀ line ∈ ["nop", "nop @ tail"], parseLine neon line = .ok [idle] := by
    intro line member
    refine (parseLine_eq_ok_iff _ _ _).mpr ⟨by simp, ?_⟩
    rcases List.mem_pair.mp member with rfl | rfl <;> decide +kernel
  have readFront : parseListing neon front = .ok [⟨3, "nop", [idle]⟩] :=
    (parseListingFrom_eq_ok_iff _ _ _).mpr (.vacant (by decide) (.vacant (by decide)
      (.code (by decide) (idleRead _ (by simp)) (.nil 4))))
  have readBack : parseListing neon ["", "nop @ tail"] = .ok [⟨2, "nop @ tail", [idle]⟩] :=
    (parseListingFrom_eq_ok_iff _ _ _).mpr (.vacant (by decide)
      (.code (by decide) (idleRead _ (by simp)) (.nil 3)))
  have refused := (parseLine_eq_error_iff neon "bogus x0" _).mpr ⟨by decide +kernel, rfl⟩
  have failed := (parseListing_eq_error_iff ["nop", "bogus x0"] _).mpr
    ⟨["nop"], "bogus x0", [], _, rfl, by simp [Passed, idleRead], by decide, refused, rfl, rfl⟩
  have parts := fun back => ((parseListing_append neon).1 front back).2 _ readFront
  exact ⟨readFront, (parts _).2 _ readBack, _, failed, (parts _).1 _ _ failed⟩

end IssueTiming.Assembly
