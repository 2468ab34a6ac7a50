import Mathlib.Data.List.Basic
import Relink.Text.LetterCase

/-!
# Small forms in ASCII

A text whose small form is a word of plain ASCII letters is this word but for ASCII capitals:
no character beyond ASCII has such letters alone as its small form.  The exceptions are `k`, the
small form of the Kelvin sign, and the dotted capital I, whose small form is longer.
-/

namespace Relink

namespace LetterCase

/-- A letter of words that are told apart by their ASCII letters alone. -/
def IsPlain (letter : Char) : Prop :=
  letter.toNat < 0x80 ∧ letter ≠ 'k' ∧ letter ≠ '\x00'

instance : DecidablePred IsPlain :=
  fun letter => inferInstanceAs (Decidable (letter.toNat < 0x80 ∧ letter ≠ 'k' ∧ letter ≠ '\x00'))

theorem capitalRuns_leave_ascii :
    ∀ run ∈ capitalRuns, (run.first = 0x212A ∧ run.last = 0x212A ∧ run.shift = -8383) ∨
      (0x80 : Int) ≤ run.first + run.shift := by
  decide +kernel

theorem not_isPlain_ofNat {code : Nat} (high : code = 'k'.toNat ∨ 0x80 ≤ code) :
    ¬ IsPlain (Char.ofNat code) := by
  rintro ⟨low, notKelvin, notNull⟩
  rcases high with rfl | high
  · exact notKelvin rfl
  · by_cases valid : code.isValidChar
    · have same : (Char.ofNat code).toNat = code := by
        rw [Char.ofNat, dif_pos valid]
        rfl
      omega
    · have null : Char.ofNat code = '\x00' := by
        rw [Char.ofNat, dif_neg valid]
        rfl
      exact notNull null

/-- A character beyond ASCII has a character in its small form that is not plain. -/
theorem exists_not_isPlain_lowerChar {char : Char} (high : 0x80 ≤ char.toNat) :
    ∃ small ∈ lowerChar char, ¬ IsPlain small := by
  have notLow : ¬ char.toNat < 0x80 := by omega
  unfold lowerChar
  rw [if_neg notLow]
  split_ifs with dotted
  · exact ⟨'\u0307', by simp, by decide⟩
  cases found : capitalRun? char.toNat with
  | none =>
      refine ⟨char, by simp, fun plain => ?_⟩
      have low := plain.1
      omega
  | some run =>
      refine ⟨_, List.mem_singleton_self _, not_isPlain_ofNat ?_⟩
      have member := List.mem_of_find?_eq_some found
      have within := List.find?_some found
      simp only [Bool.and_eq_true, decide_eq_true_eq] at within
      rcases capitalRuns_leave_ascii run member with ⟨first, last, shift⟩ | leaves
      · left
        have kelvin : char.toNat = 0x212A := by omega
        rw [kelvin, shift]
        rfl
      · right
        omega

theorem ascii_of_lowerFrom {before text : Text}
    (plain : ∀ small ∈ lowerFrom before text, IsPlain small) :
    ∀ char ∈ text, char.toNat < 0x80 := by
  induction text generalizing before with
  | nil => simp
  | cons char rest ih =>
      rw [lowerFrom, List.forall_mem_append] at plain
      obtain ⟨first, later⟩ := plain
      rw [List.forall_mem_cons]
      refine ⟨?_, ih later⟩
      by_contra high
      split_ifs at first with sigma final
      · exact absurd (first 'ς' (by simp)) (by decide)
      · exact absurd (first 'σ' (by simp)) (by decide)
      · obtain ⟨small, member, notPlain⟩ := exists_not_isPlain_lowerChar (Nat.le_of_not_lt high)
        exact notPlain (first small member)

theorem lowerFrom_of_ascii {before text : Text} (ascii : ∀ char ∈ text, char.toNat < 0x80) :
    lowerFrom before text = text.toAsciiLower := by
  induction text generalizing before with
  | nil => rfl
  | cons char rest ih =>
      obtain ⟨low, later⟩ := List.forall_mem_cons.1 ascii
      have notSigma : char ≠ 'Σ' := by
        rintro rfl
        revert low
        decide
      rw [lowerFrom, if_neg notSigma, lowerChar, if_pos low, ih later]
      rfl

/-- ASCII capitals have small forms in ASCII, and other characters stay. -/
theorem ascii_of_toLower {char : Char} (low : char.toLower.toNat < 0x80) : char.toNat < 0x80 := by
  unfold Char.toLower at low
  split_ifs at low with capital
  · have last := UInt32.le_iff_toNat_le.1 capital.2
    have spelled : 'Z'.val.toNat = 90 := rfl
    have same : char.toNat = char.val.toNat := rfl
    omega
  · exact low

end LetterCase

/-- A word of plain letters is the small form of just the texts that are this word but for ASCII
capitals. -/
theorem Text.toLower_eq_iff {word : Text} (plain : ∀ letter ∈ word, LetterCase.IsPlain letter)
    (text : Text) : text.toLower = word ↔ text.toAsciiLower = word := by
  have small (ascii : ∀ char ∈ text, char.toNat < 0x80) : text.toLower = text.toAsciiLower :=
    LetterCase.lowerFrom_of_ascii ascii
  constructor
  · rintro rfl
    exact (small (LetterCase.ascii_of_lowerFrom plain)).symm
  · rintro rfl
    refine small fun char member => LetterCase.ascii_of_toLower ?_
    exact (plain char.toLower (List.mem_map_of_mem member)).1

end Relink
