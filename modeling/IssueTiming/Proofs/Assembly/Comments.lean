import IssueTiming.Assembly.Comment
import IssueTiming.Proofs.Text.Words

/-!
# Text without comments

The code of a line holds no comment marker, and a text without one is all code.
A marker of two slashes can arise only where two texts meet.
-/

namespace IssueTiming.Assembly

open Text

/-- Neither marker of a comment occurs in the text. -/
structure CommentFree (text : List Char) : Prop where
  noAt : '@' ∉ text
  noSlashes : ¬['/', '/'] <:+: text

theorem commentFree_iff_isChain (text : List Char) :
    CommentFree text ↔
      '@' ∉ text ∧ text.IsChain fun left right => ¬(left = '/' ∧ right = '/') := by
  rw [List.isChain_iff_forall_rel_of_append_cons_cons]
  constructor
  · intro free
    rcases free with ⟨noAt, noSlashes⟩
    refine ⟨noAt, ?_⟩
    intro left right before after same
    subst text
    intro slashes
    rcases slashes with ⟨rfl, rfl⟩
    exact noSlashes ⟨before, after, by simp⟩
  · intro unmarked
    rcases unmarked with ⟨noAt, chain⟩
    refine ⟨noAt, ?_⟩
    intro slashes
    rcases slashes with ⟨before, after, rfl⟩
    have apart := @chain '/' '/' before after (by simp)
    simp at apart

theorem commentFree_append_iff (left right : List Char) :
    CommentFree (left ++ right) ↔
      CommentFree left ∧ CommentFree right ∧
        ¬(left.getLast? = some '/' ∧ right.head? = some '/') := by
  simp only [commentFree_iff_isChain, List.isChain_append, List.mem_append, not_or]
  constructor
  · intro unmarked
    rcases unmarked with ⟨⟨leftAt, rightAt⟩, leftChain, rightChain, seam⟩
    refine ⟨⟨leftAt, leftChain⟩, ⟨rightAt, rightChain⟩, ?_⟩
    intro seamSlashes
    rcases seamSlashes with ⟨last, first⟩
    exact seam '/' last '/' first ⟨rfl, rfl⟩
  · intro parts
    rcases parts with ⟨⟨leftAt, leftChain⟩, ⟨rightAt, rightChain⟩, seam⟩
    refine ⟨⟨leftAt, rightAt⟩, leftChain, rightChain, ?_⟩
    intro last isLast first isFirst seamSlashes
    rcases seamSlashes with ⟨rfl, rfl⟩
    exact seam ⟨isLast, isFirst⟩

theorem commentFree_cons_iff (head : Char) (tail : List Char) :
    CommentFree (head :: tail) ↔
      head ≠ '@' ∧ (head ≠ '/' ∨ tail.head? ≠ some '/') ∧ CommentFree tail := by
  have single : CommentFree [head] ↔ head ≠ '@' := by
    rw [commentFree_iff_isChain]
    simp [eq_comm]
  rw [← List.singleton_append, commentFree_append_iff, single, and_congr_right_iff]
  intro _
  rw [List.getLast?_singleton, and_comm, Option.some.injEq, not_and_or]

theorem CommentFree.append {left right : List Char} (leftFree : CommentFree left)
    (rightFree : CommentFree right)
    (seam : left.getLast? ≠ some '/' ∨ right.head? ≠ some '/') :
    CommentFree (left ++ right) :=
  (commentFree_append_iff left right).mpr
    ⟨leftFree, rightFree, fun both => seam.elim (· both.1) (· both.2)⟩

theorem CommentFree.of_isInfix {part text : List Char} (free : CommentFree text)
    (inside : part <:+: text) : CommentFree part :=
  ⟨fun member => free.noAt (inside.subset member),
    fun slashes => free.noSlashes (slashes.trans inside)⟩

theorem commentFree_of_not_mem {text : List Char} (noAt : '@' ∉ text) (noSlash : '/' ∉ text) :
    CommentFree text :=
  ⟨noAt, fun slashes => noSlash (slashes.subset (by simp))⟩

/-- A text that keeps its neighbours apart: nothing of it is part of a marker. -/
def Parting (middle : List Char) : Prop :=
  middle ≠ [] ∧ '@' ∉ middle ∧ '/' ∉ middle

instance : DecidablePred Parting := fun middle =>
  inferInstanceAs (Decidable (middle ≠ [] ∧ '@' ∉ middle ∧ '/' ∉ middle))

theorem CommentFree.join {left middle right : List Char} (leftFree : CommentFree left)
    (rightFree : CommentFree right) (parting : Parting middle) :
    CommentFree (left ++ middle ++ right) := by
  rcases parting with ⟨nonempty, noAt, noSlash⟩
  have first : middle.head? ≠ some '/' := fun isFirst => noSlash (List.mem_of_mem_head? isFirst)
  have last : (left ++ middle).getLast? ≠ some '/' := by
    rw [List.getLast?_append_of_ne_nil _ nonempty]
    exact fun isLast => noSlash (List.mem_of_mem_getLast? isLast)
  have leftJoined := leftFree.append (commentFree_of_not_mem noAt noSlash) (.inr first)
  exact leftJoined.append rightFree (.inl last)

theorem commentFree_of_isIdentifier {word : List Char} (identifier : isIdentifier word = true) :
    CommentFree word :=
  commentFree_of_not_mem (not_mem_of_isIdentifier identifier rfl)
    (not_mem_of_isIdentifier identifier rfl)

theorem commentFree_lowerCase_iff (text : List Char) :
    CommentFree (lowerCase text) ↔ CommentFree text := by
  simp only [commentFree_iff_isChain, mem_lowerCase_iff (show '@'.isAlpha = false from rfl)]
  simp [lowerCase, List.isChain_map, toLower_eq_iff (show '/'.isAlpha = false from rfl)]

/-! ## The code of a line -/

theorem beforeComment_isPrefix (line : List Char) : beforeComment line <+: line := by
  fun_induction beforeComment line with
  | case1 => exact List.prefix_refl []
  | case2 tail => exact List.nil_prefix
  | case3 tail => exact List.nil_prefix
  | case4 head tail noAt noSlashes induction => exact List.prefix_cons_inj head |>.mpr induction

/-- The condition under which the search for a comment goes on. -/
theorem apart_of_no_slashes {head : Char} {tail : List Char}
    (noSlashes : ∀ rest, head = '/' → tail = '/' :: rest → False) :
    head ≠ '/' ∨ tail.head? ≠ some '/' := by
  by_contra slashes
  push Not at slashes
  rcases List.head?_eq_some_iff.mp slashes.2 with ⟨rest, equal⟩
  exact noSlashes rest slashes.1 equal

theorem commentFree_beforeComment (line : List Char) : CommentFree (beforeComment line) := by
  fun_induction beforeComment line with
  | case1 => exact ⟨by simp, by simp⟩
  | case2 tail => exact ⟨by simp, by simp⟩
  | case3 tail => exact ⟨by simp, by simp⟩
  | case4 head tail noAt noSlashes induction =>
      refine (commentFree_cons_iff _ _).mpr ⟨noAt, apart_of_no_slashes ?_, induction⟩
      intro others isSlash kept
      rcases beforeComment_isPrefix tail with ⟨rest, equal⟩
      rw [kept] at equal
      exact noSlashes (others ++ rest) isSlash equal.symm

theorem CommentFree.beforeComment_eq {line : List Char} (free : CommentFree line) :
    beforeComment line = line := by
  fun_induction beforeComment line with
  | case1 => rfl
  | case2 tail => exact absurd List.mem_cons_self free.noAt
  | case3 tail => exact absurd ⟨[], tail, by simp⟩ free.noSlashes
  | case4 head tail noAt noSlashes induction =>
      rw [induction (free.of_isInfix (List.suffix_cons head tail).isInfix)]

theorem CommentFree.code_eq {line : List Char} (free : CommentFree line)
    (trimmed : Trimmed line) : code line = line := by
  rw [code, free.beforeComment_eq, trimmed.trim_eq]

theorem trim_isInfix (text : List Char) : trim text <:+: text := by
  rcases padded_trim text with ⟨left, right, -, -, equal⟩
  exact ⟨left, right, equal.symm⟩

theorem trimmed_code (line : List Char) : Trimmed (code line) :=
  trimmed_trim _

theorem commentFree_code (line : List Char) : CommentFree (code line) :=
  (commentFree_beforeComment line).of_isInfix (trim_isInfix _)

/-! ## Texts behind a line -/

theorem beforeComment_cons {head : Char} {tail : List Char} (noAt : head ≠ '@')
    (apart : head ≠ '/' ∨ tail.head? ≠ some '/') :
    beforeComment (head :: tail) = head :: beforeComment tail := by
  rw [beforeComment]
  · exact noAt
  · intro rest isSlash slashes
    simp [isSlash, slashes] at apart

/-- The search for a comment passes over a text without one, if no marker forms at the seam. -/
theorem CommentFree.beforeComment_append {front rest : List Char} (free : CommentFree front)
    (apart : front.getLast? ≠ some '/' ∨ rest.head? ≠ some '/') :
    beforeComment (front ++ rest) = front ++ beforeComment rest := by
  induction front with
  | nil => rfl
  | cons head tail induction =>
      rcases (commentFree_cons_iff head tail).mp free with ⟨noAt, seam, tailFree⟩
      have passed : beforeComment (head :: (tail ++ rest)) = head :: beforeComment (tail ++ rest) := by
        apply beforeComment_cons noAt
        cases tail with
        | nil => simpa using apart
        | cons next others => simpa using seam
      have tailApart : tail.getLast? ≠ some '/' ∨ rest.head? ≠ some '/' := by
        cases tail with
        | nil => simp
        | cons next others => simpa using apart
      rw [List.cons_append, passed, induction tailFree tailApart, List.cons_append]

/-- What follows a marker is not looked at. -/
theorem beforeComment_append_of_not_commentFree {front : List Char} (marked : ¬CommentFree front)
    (rest : List Char) : beforeComment (front ++ rest) = beforeComment front := by
  fun_induction beforeComment front with
  | case1 => exact absurd ⟨by simp, by simp⟩ marked
  | case2 tail => rfl
  | case3 tail => rfl
  | case4 head tail noAt noSlashes induction =>
      have apart := apart_of_no_slashes noSlashes
      have tailMarked : ¬CommentFree tail := fun tailFree =>
        marked ((commentFree_cons_iff head tail).mpr ⟨noAt, apart, tailFree⟩)
      have nonempty : tail ≠ [] := by
        rintro rfl
        exact tailMarked ⟨by simp, by simp⟩
      rw [List.cons_append, beforeComment_cons noAt, induction tailMarked]
      rwa [List.head?_append_of_ne_nil _ nonempty]

/-- A text behind a line does not show in the code, if it is blank up to a comment and its
first character can belong to no marker that begins in the line. -/
theorem code_append {rest : List Char} (blank : Blank (beforeComment rest))
    (apart : rest.head? ≠ some '/') (line : List Char) : code (line ++ rest) = code line := by
  by_cases free : CommentFree line
  · rw [code, code, free.beforeComment_append (.inr apart), free.beforeComment_eq,
      trim_append_of_blank_right blank]
  · rw [code, code, beforeComment_append_of_not_commentFree free]

theorem code_append_of_blank {rest : List Char} (blank : Blank rest) (line : List Char) :
    code (line ++ rest) = code line := by
  have inert : Blank (beforeComment rest) := fun character member =>
    blank character ((beforeComment_isPrefix rest).subset member)
  have apart : rest.head? ≠ some '/' := fun first =>
    blank.not_mem rfl (List.mem_of_mem_head? first)
  exact code_append inert apart line

/-- Two slashes are a marker however many slashes follow. -/
theorem CommentFree.beforeComment_slashes {body : List Char} (free : CommentFree (body ++ ['/']))
    (rest : List Char) : beforeComment (body ++ '/' :: '/' :: rest) = body := by
  rcases (commentFree_append_iff _ _).mp free with ⟨bodyFree, -, ends⟩
  rw [bodyFree.beforeComment_append (.inl fun last => ends ⟨last, rfl⟩)]
  simp [beforeComment]

/-- A text behind blanks is the code of its line exactly when it could be the whole line and
what follows is blank up to a comment that does not begin in the text. -/
theorem code_eq_iff {left : List Char} (blank : Blank left) (text right : List Char) :
    code (left ++ text ++ right) = text ↔
      CommentFree text ∧ Trimmed text ∧
        (text.getLast? ≠ some '/' ∨ right.head? ≠ some '/') ∧ Blank (beforeComment right) := by
  have passLeft : ∀ rest, beforeComment (left ++ rest) = left ++ beforeComment rest := by
    intro rest
    have slash : '/' ∉ left := blank.not_mem rfl
    have free : CommentFree left := commentFree_of_not_mem (blank.not_mem rfl) slash
    exact free.beforeComment_append (.inl fun last => slash (List.mem_of_mem_getLast? last))
  have noLeft := (visibleCount_eq_zero_iff left).mpr blank
  rw [List.append_assoc, code, passLeft]
  constructor
  · intro same
    have free : CommentFree text := by
      rw [← same, ← passLeft]
      exact commentFree_code _
    have count := congrArg visibleCount same
    rw [visibleCount_trim, visibleCount_append, noLeft, Nat.zero_add] at count
    have seam : text.getLast? ≠ some '/' ∨ right.head? ≠ some '/' := by
      by_contra slashes
      push Not at slashes
      rcases List.getLast?_eq_some_iff.mp slashes.1 with ⟨body, rfl⟩
      rcases List.head?_eq_some_iff.mp slashes.2 with ⟨rest, rfl⟩
      have oneMore : visibleCount ['/'] = 1 := rfl
      rw [List.append_assoc, List.singleton_append, free.beforeComment_slashes,
        visibleCount_append, oneMore] at count
      omega
    rw [free.beforeComment_append seam, visibleCount_append] at count
    exact ⟨free, same ▸ trimmed_trim _, seam, (visibleCount_eq_zero_iff _).mp (by omega)⟩
  · intro parts
    rcases parts with ⟨free, trimmed, seam, behind⟩
    rw [free.beforeComment_append seam, ← List.append_assoc]
    exact Padded.trim_eq ⟨left, _, blank, behind, rfl⟩ trimmed

/-! ## Plain and solid texts -/

/-- A part of a token: no blank and no comment marker. -/
structure Plain (word : List Char) : Prop where
  blankless : Blankless word
  commentFree : CommentFree word

theorem Plain.of_isInfix {part word : List Char} (plain : Plain word) (inside : part <:+: word) :
    Plain part :=
  ⟨fun character member => plain.blankless character (inside.subset member),
    plain.commentFree.of_isInfix inside⟩

theorem plain_lowerCase_iff (word : List Char) : Plain (lowerCase word) ↔ Plain word := by
  constructor
  · intro plain
    rcases plain with ⟨blankless, free⟩
    exact ⟨(blankless_lowerCase_iff word).mp blankless, (commentFree_lowerCase_iff word).mp free⟩
  · intro plain
    rcases plain with ⟨blankless, free⟩
    exact ⟨(blankless_lowerCase_iff word).mpr blankless, (commentFree_lowerCase_iff word).mpr free⟩

/-- A text that shows in a line from its first to its last character. -/
structure Solid (text : List Char) : Prop where
  nonempty : text ≠ []
  trimmed : Trimmed text
  commentFree : CommentFree text

theorem solid_of_isIdentifier {word : List Char} (identifier : isIdentifier word = true) :
    Solid word :=
  ⟨ne_nil_of_isIdentifier identifier, (blankless_of_isIdentifier identifier).trimmed,
    commentFree_of_isIdentifier identifier⟩

theorem Solid.append {left right : List Char} (leftSolid : Solid left) (rightSolid : Solid right)
    (seam : left.getLast? ≠ some '/' ∨ right.head? ≠ some '/') : Solid (left ++ right) := by
  refine ⟨by simp [leftSolid.nonempty], ?_,
    leftSolid.commentFree.append rightSolid.commentFree seam⟩
  simpa using leftSolid.trimmed.join [] rightSolid.trimmed leftSolid.nonempty rightSolid.nonempty

theorem Solid.join {left middle right : List Char} (leftSolid : Solid left)
    (rightSolid : Solid right) (parting : Parting middle) : Solid (left ++ middle ++ right) :=
  ⟨by simp [leftSolid.nonempty],
    leftSolid.trimmed.join middle rightSolid.trimmed leftSolid.nonempty rightSolid.nonempty,
    leftSolid.commentFree.join rightSolid.commentFree parting⟩

theorem solid_singleton {character : Char} (nonblank : isBlank character = false)
    (parting : Parting [character]) : Solid [character] :=
  ⟨parting.1, ⟨by simpa using nonblank, by simpa using nonblank⟩,
    commentFree_of_not_mem parting.2.1 parting.2.2⟩

theorem solid_intercalate {separator : List Char} (parting : Parting separator)
    {words : List (List Char)} (nonempty : words ≠ []) (solid : ∀ word ∈ words, Solid word) :
    Solid (List.intercalate separator words) := by
  induction words with
  | nil => exact absurd rfl nonempty
  | cons word words induction =>
      cases words with
      | nil => simpa using solid word (by simp)
      | cons next words =>
          rcases List.forall_mem_cons.mp solid with ⟨first, rest⟩
          rw [List.intercalate_cons_cons]
          exact first.join (induction (by simp) rest) parting

end IssueTiming.Assembly
