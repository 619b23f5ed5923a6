import IssueTiming.Assembly.Listing
import IssueTiming.Proofs.Outcome

/-!
# Reading a listing line by line

`ListingReading` follows a listing from line to line: a line without code is
passed over, any other line has its candidates. Properties of parsed listings are
shown by induction on it.
-/

namespace IssueTiming.Assembly

/-- The lines of a listing, the first of which has the given number, and what is
read from them. -/
inductive ListingReading (dialect : Dialect) : Nat → List String → List ParsedLine → Prop
  | nil (number : Nat) : ListingReading dialect number [] []
  | vacant {number : Nat} {line : String} {lines : List String} {parsed : List ParsedLine} :
      isVacant line = true → ListingReading dialect (number + 1) lines parsed →
      ListingReading dialect number (line :: lines) parsed
  | code {number : Nat} {line : String} {lines : List String} {candidates : List Instruction}
      {parsed : List ParsedLine} :
      isVacant line = false → parseLine dialect line = .ok candidates →
      ListingReading dialect (number + 1) lines parsed →
      ListingReading dialect number (line :: lines) (⟨number, line, candidates⟩ :: parsed)

variable {dialect : Dialect}

theorem parseListingFrom_eq_ok_iff (number : Nat) (lines : List String)
    (parsed : List ParsedLine) :
    parseListingFrom dialect number lines = .ok parsed ↔
      ListingReading dialect number lines parsed := by
  constructor
  · intro read
    induction lines generalizing number parsed with
    | nil =>
        rcases Except.ok.inj read with rfl
        exact .nil number
    | cons line lines induction =>
        rw [parseListingFrom] at read
        split at read
        · next vacant => exact .vacant vacant (induction _ _ read)
        · next visible =>
          split at read
          · cases read
          · next candidates parsedLine =>
            rcases (map_eq_ok_iff _ _ _).mp read with ⟨rest, readRest, rfl⟩
            exact .code (by simpa using visible) parsedLine (induction _ _ readRest)
  · intro reading
    induction reading with
    | nil => rfl
    | vacant vacant rest induction => simp only [parseListingFrom, if_pos vacant, induction]
    | code visible parsedLine rest induction =>
        simp only [parseListingFrom, visible, parsedLine, induction]
        rfl

theorem ListingReading.parseLine_eq {number : Nat} {lines : List String}
    {parsed : List ParsedLine} (reading : ListingReading dialect number lines parsed) :
    ∀ line ∈ parsed, parseLine dialect line.text = .ok line.candidates := by
  induction reading with
  | nil => simp
  | vacant vacant rest induction => exact induction
  | code visible parsedLine rest induction =>
      exact List.forall_mem_cons.mpr ⟨parsedLine, induction⟩

/-- Where every line holds code, no number and no text is lost. -/
theorem exists_listingReading {lines : List String} {results : List (List Instruction)}
    (read : List.Forall₂ (fun line candidates =>
      isVacant line = false ∧ parseLine dialect line = .ok candidates) lines results)
    (number : Nat) :
    ∃ parsed, ListingReading dialect number lines parsed ∧
      parsed.map ParsedLine.number = List.range' number lines.length ∧
      parsed.map ParsedLine.text = lines ∧ parsed.map ParsedLine.candidates = results := by
  induction read generalizing number with
  | nil => exact ⟨[], .nil number, rfl, rfl, rfl⟩
  | cons first rest induction =>
      rcases induction (number + 1) with ⟨parsed, reading, numbers, texts, candidates⟩
      refine ⟨_, .code first.1 first.2 reading, ?_, ?_, ?_⟩
      · simp [numbers, List.range'_succ]
      · simp [texts]
      · simp [candidates]

end IssueTiming.Assembly
