import Mathlib.Data.List.Basic
import Mathlib.Data.List.TakeDrop
import Mathlib.Data.List.TakeWhile
import Relink.Text.Split

/-!
# Cutting texts at a mark

Cutting at a mark and joining with it undo each other on pieces without the mark.
An ending without the mark is an ending of the last piece alone.
-/

namespace Relink

namespace Text

section Pieces

variable {α : Type} {mark : α}

@[simp] theorem joinWith_singleton (piece : List α) : joinWith mark [piece] = piece := rfl

theorem joinWith_cons {pieces : List (List α)} (more : pieces ≠ []) (piece : List α) :
    joinWith mark (piece :: pieces) = piece ++ mark :: joinWith mark pieces := by
  cases pieces with
  | nil => exact absurd rfl more
  | cons second rest => rfl

/-- Pieces joined in two parts have a mark between the parts. -/
theorem joinWith_append {front back : List (List α)} (frontSome : front ≠ [])
    (backSome : back ≠ []) :
    joinWith mark (front ++ back) = joinWith mark front ++ mark :: joinWith mark back := by
  induction front with
  | nil => exact absurd rfl frontSome
  | cons first rest ih =>
      have more : rest ++ back ≠ [] := by simp [backSome]
      rw [List.cons_append, joinWith_cons more]
      by_cases last : rest = []
      · subst last
        rfl
      · rw [ih last, joinWith_cons last, List.append_assoc, List.cons_append]

/-- The last piece stands behind the last mark. -/
theorem joinWith_concat {pieces : List (List α)} (more : pieces ≠ []) (piece : List α) :
    joinWith mark (pieces ++ [piece]) = joinWith mark pieces ++ mark :: piece :=
  joinWith_append more (List.cons_ne_nil piece [])

/-- What is joined ends in the last piece. -/
theorem exists_joinWith_concat (mark : α) (pieces : List (List α)) (piece : List α) :
    ∃ front, joinWith mark (pieces ++ [piece]) = front ++ piece := by
  by_cases nonempty : pieces = []
  · subst nonempty
    exact ⟨[], rfl⟩
  · exact ⟨joinWith mark pieces ++ [mark], by simp [joinWith_concat nonempty]⟩

theorem mem_joinWith {pieces : List (List α)} {piece : List α} (among : piece ∈ pieces)
    {letter : α} (member : letter ∈ piece) : letter ∈ joinWith mark pieces := by
  induction pieces with
  | nil => cases among
  | cons first rest ih =>
      by_cases last : rest = []
      · subst last
        rwa [List.mem_singleton.1 among] at member
      · rw [joinWith_cons last, List.mem_append]
        rcases List.mem_cons.1 among with rfl | later
        · exact Or.inl member
        · exact Or.inr (List.mem_cons_of_mem _ (ih later))

theorem getLast?_append_ne {piece : List α} (nonempty : piece ≠ []) (unmarked : mark ∉ piece)
    (front : List α) : (front ++ piece).getLast? ≠ some mark := by
  obtain rfl | ⟨before, final, rfl⟩ := List.eq_nil_or_concat' piece
  · exact absurd rfl nonempty
  · rw [← List.append_assoc, List.getLast?_concat, ne_eq, Option.some.injEq]
    rintro rfl
    exact unmarked (by simp)

/-- An ending without the mark does not reach over a mark. -/
theorem suffix_append_mark_iff {ending : List α} (unmarked : mark ∉ ending) (front back : List α) :
    ending <:+ front ++ mark :: back ↔ ending <:+ back := by
  constructor
  · intro reaches
    have behind : back <:+ front ++ mark :: back := ⟨front ++ [mark], by simp⟩
    rcases List.suffix_or_suffix_of_suffix reaches behind with short | long
    · exact short
    · obtain ⟨excess, rfl⟩ := long
      obtain ⟨before, spelled⟩ := reaches
      rcases List.eq_nil_or_concat excess with rfl | ⟨start, last, rfl⟩
      · simp
      · have lastIsMark : last = mark := by
          have cut : ((before ++ start) ++ [last]) ++ back = (front ++ [mark]) ++ back := by
            simpa using spelled
          simpa using (List.append_inj' (List.append_cancel_right cut) rfl).2
        simp [lastIsMark] at unmarked
  · rintro ⟨before, rfl⟩
    exact ⟨front ++ mark :: before, by simp⟩

/-- A mark in a text has a last occurrence. -/
theorem exists_last_of_mem {text : List α} (marked : mark ∈ text) :
    ∃ before after, text = before ++ mark :: after ∧ mark ∉ after := by
  obtain ⟨behind, front, shape, unmarked⟩ :=
    List.eq_append_cons_of_mem (List.mem_reverse.2 marked)
  have spelled : text = front.reverse ++ mark :: behind.reverse := by
    simpa using congrArg List.reverse shape
  exact ⟨front.reverse, behind.reverse, spelled, by simpa using unmarked⟩

variable [DecidableEq α]

@[simp] theorem splitOn_nil : splitOn mark [] = [[]] := rfl

theorem splitOn_append_mark (front back : List α) :
    splitOn mark (front ++ mark :: back) = splitOn mark front ++ splitOn mark back := by
  induction front with
  | nil => simp [splitOn]
  | cons letter rest ih =>
      by_cases isMark : letter = mark
      · simp [splitOn, isMark, ih]
      · simp only [List.cons_append, splitOn, isMark, if_false, ih]
        cases pieces : splitOn mark rest with
        | nil => exact absurd pieces (splitOn_ne_nil mark rest)
        | cons piece more => simp

theorem splitOn_of_not_mem {text : List α} (unmarked : mark ∉ text) :
    splitOn mark text = [text] := by
  induction text with
  | nil => rfl
  | cons letter rest ih =>
      simp only [List.mem_cons, not_or] at unmarked
      simp [splitOn, Ne.symm unmarked.1, ih unmarked.2]

/-- Pieces without the mark are found again in what they are joined to. -/
theorem splitOn_joinWith {pieces : List (List α)} (nonempty : pieces ≠ [])
    (unmarked : ∀ piece ∈ pieces, mark ∉ piece) :
    splitOn mark (joinWith mark pieces) = pieces := by
  induction pieces with
  | nil => exact absurd rfl nonempty
  | cons first rest ih =>
      have firstUnmarked : mark ∉ first := unmarked first (by simp)
      cases rest with
      | nil => simpa using splitOn_of_not_mem firstUnmarked
      | cons second others =>
          rw [joinWith_cons (by simp), splitOn_append_mark,
            splitOn_of_not_mem firstUnmarked,
            ih (by simp) fun piece member => unmarked piece (by simp [member])]
          rfl

theorem not_mem_of_mem_splitOn {text piece : List α} (member : piece ∈ splitOn mark text) :
    mark ∉ piece := by
  induction text generalizing piece with
  | nil => simp_all
  | cons letter rest ih =>
      simp only [splitOn] at member
      split at member
      · rcases List.mem_cons.1 member with rfl | later
        · simp
        · exact ih later
      · rename_i notMark
        cases pieces : splitOn mark rest with
        | nil => exact absurd pieces (splitOn_ne_nil mark rest)
        | cons first others =>
            rw [pieces] at member ih
            rcases List.mem_cons.1 member with rfl | later
            · simp only [List.mem_cons, not_or]
              exact ⟨fun same => notMark same.symm, ih (by simp)⟩
            · exact ih (by simp [later])

theorem splitAtLast?_append {after : List α} (unmarked : mark ∉ after) (before : List α) :
    splitAtLast? mark (before ++ mark :: after) = some (before, after) := by
  have passed : ∀ letter ∈ after.reverse, decide (letter ≠ mark) = true := by
    intro letter member
    apply decide_eq_true
    rintro rfl
    exact unmarked (List.mem_reverse.1 member)
  unfold splitAtLast?
  rw [List.span_eq_takeWhile_dropWhile, List.reverse_append, List.reverse_cons,
    List.append_assoc, List.takeWhile_append_of_pos passed, List.dropWhile_append_of_pos passed]
  simp

theorem splitAtLast?_of_not_mem {text : List α} (unmarked : mark ∉ text) :
    splitAtLast? mark text = none := by
  have passed : text.reverse.dropWhile (· ≠ mark) = [] := by
    rw [List.dropWhile_eq_nil_iff]
    intro letter member
    apply decide_eq_true
    rintro rfl
    exact unmarked (List.mem_reverse.1 member)
  unfold splitAtLast?
  rw [List.span_eq_takeWhile_dropWhile, passed]

theorem splitAtLast?_eq_some {text before after : List α}
    (found : splitAtLast? mark text = some (before, after)) :
    text = before ++ mark :: after ∧ mark ∉ after := by
  by_cases marked : mark ∈ text
  · obtain ⟨front, behind, spelled, unmarked⟩ := exists_last_of_mem marked
    rw [spelled, splitAtLast?_append unmarked] at found
    simp only [Option.some.injEq, Prod.mk.injEq] at found
    obtain ⟨rfl, rfl⟩ := found
    exact ⟨spelled, unmarked⟩
  · simp [splitAtLast?_of_not_mem marked] at found

theorem dropEnding?_eq_none {ending text : List α} (absent : ¬ ending <:+ text) :
    dropEnding? ending text = none := by
  unfold dropEnding?
  rw [if_neg fun endsWith => absent (List.isSuffixOf_iff_suffix.1 endsWith)]

end Pieces

end Text

end Relink
