/-!
# Texts in pieces

A text is a list of characters.  This file cuts texts at a mark, puts the
pieces together again, takes a known ending off a text, and counts bytes.
Cutting and joining ask nothing of the letters of a text but that the mark can be
told from the others.
-/

namespace Relink

abbrev Text := List Char

namespace Text

section Pieces

variable {α : Type}

/-- The pieces one after another, with `mark` between neighbours. -/
def joinWith (mark : α) : List (List α) → List α
  | [] => []
  | [piece] => piece
  | piece :: pieces => piece ++ mark :: joinWith mark pieces

theorem length_joinWith_pos (mark : α) {pieces : List (List α)} {piece : List α}
    (member : piece ∈ pieces) (nonempty : piece ≠ []) : 0 < (joinWith mark pieces).length := by
  cases pieces with
  | nil => simp at member
  | cons first rest =>
      cases rest with
      | nil =>
          simp only [List.mem_singleton] at member
          subst member
          simpa [joinWith] using List.length_pos_iff.2 nonempty
      | cons second others =>
          simp only [joinWith, List.length_append, List.length_cons]
          omega

/-- More pieces, not all of them empty, make a longer text. -/
theorem length_joinWith_lt (mark : α) (front : List (List α)) {back : List (List α)}
    {piece : List α} (member : piece ∈ back) (nonempty : piece ≠ []) :
    (joinWith mark front).length < (joinWith mark (front ++ back)).length := by
  induction front with
  | nil => simpa [joinWith] using length_joinWith_pos mark member nonempty
  | cons first rest shorter =>
      cases rest with
      | nil =>
          cases back with
          | nil => simp at member
          | cons next others => simp [joinWith]
      | cons second others => simpa [joinWith] using shorter

variable [DecidableEq α]

/-- The pieces of a text between the occurrences of `mark`.  There is always
one piece more than there are marks. -/
def splitOn (mark : α) : List α → List (List α)
  | [] => [[]]
  | letter :: rest =>
      if letter = mark then
        [] :: splitOn mark rest
      else
        match splitOn mark rest with
        | [] => [[letter]]
        | piece :: pieces => (letter :: piece) :: pieces

/-- What stands before and after the last occurrence of `mark`. -/
def splitAtLast? (mark : α) (text : List α) : Option (List α × List α) :=
  match text.reverse.span (· ≠ mark) with
  | (_, []) => none
  | (after, _ :: before) => some (before.reverse, after.reverse)

/-- What stands before `ending`, if the text ends in it. -/
def dropEnding? (ending text : List α) : Option (List α) :=
  if ending.isSuffixOf text then
    some (text.take (text.length - ending.length))
  else
    none

theorem splitOn_ne_nil (mark : α) (text : List α) : splitOn mark text ≠ [] := by
  cases text with
  | nil => simp [splitOn]
  | cons letter rest =>
      simp only [splitOn]
      split
      · simp
      · split <;> simp

/-- Joining the pieces gives the text back. -/
@[simp] theorem joinWith_splitOn (mark : α) (text : List α) :
    joinWith mark (splitOn mark text) = text := by
  induction text with
  | nil => rfl
  | cons letter rest restored =>
      simp only [splitOn]
      split
      · rename_i isMark
        subst isMark
        cases pieces : splitOn letter rest with
        | nil => exact absurd pieces (splitOn_ne_nil letter rest)
        | cons piece more => simp [joinWith, ← pieces, restored]
      · cases pieces : splitOn mark rest with
        | nil => exact absurd pieces (splitOn_ne_nil mark rest)
        | cons piece more =>
            rw [pieces] at restored
            cases more with
            | nil => simpa [joinWith] using restored
            | cons next others => simpa [joinWith] using restored

theorem eq_append_of_dropEnding? {ending text stem : List α}
    (found : dropEnding? ending text = some stem) : text = stem ++ ending := by
  unfold dropEnding? at found
  split at found
  · rename_i endsWith
    obtain ⟨front, rfl⟩ := List.isSuffixOf_iff_suffix.1 endsWith
    simp at found
    simp [found]
  · simp at found

@[simp] theorem dropEnding?_append (stem ending : List α) :
    dropEnding? ending (stem ++ ending) = some stem := by
  unfold dropEnding?
  rw [if_pos (List.isSuffixOf_iff_suffix.2 ⟨stem, rfl⟩)]
  simp

end Pieces

def byteLength (text : Text) : Nat :=
  text.foldl (fun total char => total + char.utf8Size) 0

/-- The characters of a text that begin among its first bytes. -/
def takeBytes : Nat → Text → Text
  | _, [] => []
  | 0, _ => []
  | count, char :: rest => char :: takeBytes (count - char.utf8Size) rest

/-- The characters of a text that do not begin among its first bytes. -/
def dropBytes : Nat → Text → Text
  | _, [] => []
  | 0, text => text
  | count, char :: rest => dropBytes (count - char.utf8Size) rest

end Text

end Relink
