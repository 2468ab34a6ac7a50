import Mathlib.Data.List.Basic
import Relink.Path.Normal
import Relink.Proofs.Pieces

/-!
# Steps of a path

The steps of a path are read off its segments.  Names are the segments that a path
descends by, and all steps but the first of a path are names or `..`.  Joining two
paths puts their steps one after another.
-/

namespace Relink

/-- Letters that a path can descend by. -/
structure IsName (letters : Letters) : Prop where
  nonempty : letters ≠ []
  notCurrent : letters ≠ [.char '.']
  notParent : letters ≠ [.char '.', .char '.']
  noSlash : .char '/' ∉ letters

theorem isName_iff {letters : Letters} :
    IsName letters ↔
      letters ≠ [] ∧ letters ≠ [.char '.'] ∧ letters ≠ [.char '.', .char '.'] ∧
        .char '/' ∉ letters :=
  ⟨fun isName => ⟨isName.nonempty, isName.notCurrent, isName.notParent, isName.noSlash⟩,
    fun ⟨nonempty, notCurrent, notParent, noSlash⟩ =>
      ⟨nonempty, notCurrent, notParent, noSlash⟩⟩

instance (letters : Letters) : Decidable (IsName letters) :=
  decidable_of_iff' _ isName_iff

theorem IsName.of_length {letters : Letters} (long : 2 < letters.length)
    (noSlash : .char '/' ∉ letters) :
    IsName letters := by
  refine ⟨?_, ?_, ?_, noSlash⟩ <;>
  · rintro rfl
    simp at long

namespace Component

/-- A step that may stand anywhere in a path. -/
def IsPlain : Component → Prop
  | parent => True
  | name letters => IsName letters
  | _ => False

theorem ofSegment?_letters {step : Component} (plain : step.IsPlain) :
    ofSegment? step.letters = some step := by
  cases step with
  | root => exact plain.elim
  | current => exact plain.elim
  | parent => rfl
  | name letters =>
      have isName : IsName letters := plain
      simp [ofSegment?, Component.letters, isName.nonempty, isName.notCurrent, isName.notParent]

theorem not_slash_mem_letters {step : Component} (plain : step.IsPlain) :
    .char '/' ∉ step.letters := by
  cases step with
  | root => exact plain.elim
  | current => exact plain.elim
  | parent => simp [Component.letters]
  | name letters => exact IsName.noSlash plain

theorem isPlain_of_ofSegment? {segment : Letters} {step : Component}
    (read : ofSegment? segment = some step) (noSlash : .char '/' ∉ segment) : step.IsPlain := by
  unfold ofSegment? at read
  split at read
  · simp at read
  · rename_i notBlank
    rw [not_or] at notBlank
    split at read
    · simp only [Option.some.injEq] at read
      subst read
      trivial
    · rename_i notParent
      simp only [Option.some.injEq] at read
      subst read
      exact ⟨notBlank.1, notBlank.2, notParent, noSlash⟩

end Component

namespace Path

open Component

/-- The steps that the segments of a spelling stand for. -/
def stepsOf (letters : Letters) : List Component :=
  (Text.splitOn (.char '/') letters).filterMap ofSegment?

@[simp] theorem stepsOf_nil : stepsOf [] = [] := rfl

@[simp] theorem stepsOf_current : stepsOf [.char '.'] = [] := rfl

theorem stepsOf_append_slash (front back : Letters) :
    stepsOf (front ++ .char '/' :: back) = stepsOf front ++ stepsOf back := by
  simp [stepsOf, Text.splitOn_append_mark]

@[simp] theorem stepsOf_slash (letters : Letters) :
    stepsOf (.char '/' :: letters) = stepsOf letters :=
  stepsOf_append_slash [] letters

theorem stepsOf_current_slash (letters : Letters) :
    stepsOf (.char '.' :: .char '/' :: letters) = stepsOf letters :=
  stepsOf_append_slash [.char '.'] letters

theorem stepsOf_letters {step : Component} (plain : step.IsPlain) :
    stepsOf step.letters = [step] := by
  simp [stepsOf, Text.splitOn_of_not_mem (not_slash_mem_letters plain), ofSegment?_letters plain]

theorem isPlain_of_mem_stepsOf {letters : Letters} {step : Component}
    (member : step ∈ stepsOf letters) :
    step.IsPlain := by
  obtain ⟨segment, among, read⟩ := List.mem_filterMap.1 member
  exact isPlain_of_ofSegment? read (Text.not_mem_of_mem_splitOn among)

theorem stepsOf_joinWith {steps : List Component} (plain : ∀ step ∈ steps, step.IsPlain) :
    stepsOf (Text.joinWith (.char '/') (steps.map Component.letters)) = steps := by
  induction steps with
  | nil => rfl
  | cons step rest ih =>
      have stepPlain : step.IsPlain := plain step (by simp)
      have restPlain : ∀ other ∈ rest, other.IsPlain := fun other member =>
        plain other (by simp [member])
      cases rest with
      | nil => simpa using stepsOf_letters stepPlain
      | cons second others =>
          rw [List.map_cons, Text.joinWith_cons (by simp), stepsOf_append_slash,
            stepsOf_letters stepPlain, ih restPlain]
          rfl

/-- The steps of a path are those of its letters behind the step it begins with. -/
theorem components_eq (path : Path) :
    path.components = path.split.1.components ++ stepsOf path.letters := by
  obtain ⟨letters⟩ := path
  unfold components split
  split
  · rename_i rest spelled
    simp only at spelled
    rw [spelled, stepsOf_slash]
    rfl
  · rename_i spelled
    simp only at spelled
    simp [spelled]
  · rename_i rest spelled
    simp only at spelled
    rw [spelled, stepsOf_current_slash]
    rfl
  · rfl

theorem exists_rest_of_isAbsolute {path : Path} (absolute : path.isAbsolute = true) :
    ∃ rest, path = ⟨.char '/' :: rest⟩ := by
  obtain ⟨letters⟩ := path
  cases letters with
  | nil => simp [isAbsolute] at absolute
  | cons letter rest =>
      have isSlash : letter = .char '/' := by simpa [isAbsolute] using absolute
      exact ⟨rest, by rw [isSlash]⟩

theorem components_of_isAbsolute {path : Path} (absolute : path.isAbsolute = true) :
    path.components = .root :: stepsOf path.letters := by
  obtain ⟨rest, rfl⟩ := exists_rest_of_isAbsolute absolute
  simp [components_eq, split, Anchor.components]

theorem isAbsolute_of_not_mem {letters : Letters} (noSlash : .char '/' ∉ letters) :
    (⟨letters⟩ : Path).isAbsolute = false := by
  cases letters with
  | nil => rfl
  | cons letter rest =>
      have notSlash : letter ≠ .char '/' := by
        rintro rfl
        exact noSlash List.mem_cons_self
      simpa [isAbsolute] using notSlash

/-- A path that does not begin at the root steps on from where it is looked at. -/
theorem stepsOf_join {target : Path} (unrooted : target.isAbsolute = false) (base : Path) :
    stepsOf (base.join target).letters = stepsOf base.letters ++ stepsOf target.letters := by
  unfold join
  rw [if_neg (by simp [unrooted])]
  split
  · rename_i ends
    rcases ends with blank | slash
    · simp [blank]
    · obtain ⟨front, shape⟩ := List.getLast?_eq_some_iff.1 slash
      rw [shape, List.append_assoc, List.singleton_append, stepsOf_append_slash,
        stepsOf_append_slash]
      simp
  · exact stepsOf_append_slash base.letters target.letters

theorem isAbsolute_join {base : Path} (absolute : base.isAbsolute = true) (target : Path) :
    (base.join target).isAbsolute = true := by
  obtain ⟨rest, rfl⟩ := exists_rest_of_isAbsolute absolute
  unfold join
  split
  · assumption
  · split <;> simp [isAbsolute]

end Path

end Relink
