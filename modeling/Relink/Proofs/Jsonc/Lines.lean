import Mathlib.Order.Hom.Basic
import Mathlib.Order.Fin.Basic
import Mathlib.Data.List.Infix
import Relink.Json.Decode
import Relink.Jsonc

/-!
# Lines of stripped texts

Stripping drops characters, but no line ends.  So the characters that stay have their sources in
the text, in order, with as many line ends before them.  Each step of the pass keeps a character
or drops some that end no line, and the sources are found step by step.
-/

namespace Relink

namespace Jsonc

open Json (lineEnds)

/-- A text without some of its characters, none of which ends a line. -/
inductive Thinned : Text → Text → Prop
  | nil : Thinned [] []
  | keep (char : Char) {left text : Text} (rest : Thinned left text) :
      Thinned (char :: left) (char :: text)
  | drop {char : Char} {left text : Text} (inLine : char ≠ '\n') (rest : Thinned left text) :
      Thinned left (char :: text)

theorem lineEnds_cons (char : Char) (text : Text) :
    lineEnds (char :: text) = lineEnds text + if char = '\n' then 1 else 0 := by
  simp [lineEnds, List.count_cons]

theorem Thinned.lineEnds_eq {left text : Text} (thinned : Thinned left text) :
    lineEnds left = lineEnds text := by
  induction thinned with
  | nil => rfl
  | keep char rest ih => rw [lineEnds_cons, lineEnds_cons, ih]
  | drop inLine rest ih => rw [lineEnds_cons, if_neg inLine, ih, Nat.add_zero]

theorem Thinned.sublist {left text : Text} (thinned : Thinned left text) : left.Sublist text := by
  induction thinned with
  | nil => exact .slnil
  | keep char rest ih => exact .cons_cons char ih
  | drop inLine rest ih => exact .cons _ ih

/-- Stripping thins a text, from within a string or a comment on as well. -/
theorem thinned_strip :
    (∀ text, Thinned (strip text) text) ∧ (∀ text, Thinned (stripBlock text) text) ∧
      (∀ text, Thinned (stripLine text) text) ∧ ∀ text, Thinned (stripString text) text := by
  refine strip.mutual_induct _ _ _ _ ?string ?line ?block ?trailing ?comma ?other ?nothing
    ?blockEnds ?lineEndInBlock ?inBlock ?unclosedBlock ?lineEnds ?inLine ?lastLine
    ?escape ?quote ?inString ?unclosedString
  case string =>
    intro rest ih
    exact .keep '"' ih
  case line =>
    intro rest ih
    exact .drop (by decide) (.drop (by decide) ih)
  case block =>
    intro rest ih
    exact .drop (by decide) (.drop (by decide) ih)
  case trailing =>
    intro rest trails ih
    rw [strip, if_pos trails]
    exact .drop (by decide) ih
  case comma =>
    intro rest goesOn ih
    rw [strip, if_neg goesOn]
    exact .keep ',' ih
  case other =>
    intro char rest notQuote notLine notBlock notComma ih
    have stripped : strip (char :: rest) = char :: strip rest := by
      rw [strip] <;> assumption
    rw [stripped]
    exact .keep char ih
  case nothing => exact .nil
  case blockEnds =>
    intro rest ih
    exact .drop (by decide) (.drop (by decide) ih)
  case lineEndInBlock =>
    intro rest ih
    exact .keep '\n' ih
  case inBlock =>
    intro char rest goesOn notEnd ih
    have skipped : stripBlock (char :: rest) = stripBlock rest := by
      rw [stripBlock] <;> assumption
    rw [skipped]
    exact .drop notEnd ih
  case unclosedBlock => exact .nil
  case lineEnds =>
    intro rest ih
    exact .keep '\n' ih
  case inLine =>
    intro char rest goesOn ih
    have skipped : stripLine (char :: rest) = stripLine rest := by
      simp only [stripLine]
    rw [skipped]
    exact .drop goesOn ih
  case lastLine => exact .nil
  case escape =>
    intro char rest ih
    exact .keep '\\' (.keep char ih)
  case quote =>
    intro rest ih
    exact .keep '"' ih
  case inString =>
    intro char rest notEscape notQuote ih
    have stays : stripString (char :: rest) = char :: stripString rest := by
      rw [stripString] <;> assumption
    rw [stays]
    exact .keep char ih
  case unclosedString => exact .nil

/-- The places of a text at which the characters of a thinned text stand: in order, in the same
lines, and with all line ends among them. -/
structure IsSource {left text : Text} (source : Fin left.length ↪o Fin text.length) : Prop where
  char : ∀ place, text.get (source place) = left.get place
  line : ∀ place, lineEnds (text.take (source place)) = lineEnds (left.take place)
  lineEnd : ∀ place, text.get place = '\n' → place ∈ Set.range source

/-- A character that stays stands at the first place, and the others one place behind. -/
theorem IsSource.keep {left text : Text} {source : Fin left.length ↪o Fin text.length}
    (isSource : IsSource source) (char : Char) :
    ∃ next : Fin (char :: left).length ↪o Fin (char :: text).length, IsSource next := by
  let places : Fin (left.length + 1) → Fin (text.length + 1) :=
    Fin.cases 0 fun place => (source place).succ
  have increasing : StrictMono places := by
    intro first second before
    cases second using Fin.cases with
    | zero => exact absurd before (Fin.not_lt_zero first)
    | succ second =>
        cases first using Fin.cases with
        | zero => exact Fin.succ_pos _
        | succ first => simpa [places] using before
  refine ⟨OrderEmbedding.ofStrictMono places increasing, ?_, ?_, ?_⟩
  · intro place
    cases place using Fin.cases with
    | zero => rfl
    | succ place => exact isSource.char place
  · intro place
    cases place using Fin.cases with
    | zero => rfl
    | succ place =>
        have later := isSource.line place
        simpa [places, lineEnds_cons] using later
  · intro place isEnd
    cases place using Fin.cases with
    | zero => exact ⟨0, rfl⟩
    | succ place =>
        obtain ⟨kept, rfl⟩ := isSource.lineEnd place isEnd
        exact ⟨kept.succ, rfl⟩

/-- Behind a character that is dropped, all others stand one place further. -/
theorem IsSource.drop {left text : Text} {source : Fin left.length ↪o Fin text.length}
    (isSource : IsSource source) {char : Char} (inLine : char ≠ '\n') :
    ∃ next : Fin left.length ↪o Fin (char :: text).length, IsSource next := by
  refine ⟨source.trans (Fin.succOrderEmb text.length), isSource.char, ?_, ?_⟩
  · intro place
    have same := isSource.line place
    simpa [lineEnds_cons, inLine] using same
  · intro place isEnd
    cases place using Fin.cases with
    | zero => exact absurd isEnd inLine
    | succ place =>
        obtain ⟨kept, rfl⟩ := isSource.lineEnd place isEnd
        exact ⟨kept, rfl⟩

/-- A source ends as many lines as the character that is kept of it. -/
theorem IsSource.line_behind {left text : Text} {source : Fin left.length ↪o Fin text.length}
    (isSource : IsSource source) (place : Fin left.length) :
    lineEnds (text.take (source place + 1)) = lineEnds (left.take (place + 1)) := by
  have before := isSource.line place
  have same : text[(source place).val] = left[place.val] := isSource.char place
  unfold lineEnds at before ⊢
  rw [List.take_succ_eq_append_getElem (source place).isLt,
    List.take_succ_eq_append_getElem place.isLt, List.count_append, List.count_append, before, same]

theorem Thinned.exists_source {left text : Text} (thinned : Thinned left text) :
    ∃ source : Fin left.length ↪o Fin text.length, IsSource source := by
  induction thinned with
  | nil =>
      exact ⟨RelEmbedding.refl _, fun place => place.elim0, fun place => place.elim0,
        fun place => place.elim0⟩
  | keep char rest ih =>
      obtain ⟨source, isSource⟩ := ih
      exact isSource.keep char
  | drop inLine rest ih =>
      obtain ⟨source, isSource⟩ := ih
      exact isSource.drop inLine

end Jsonc

end Relink
