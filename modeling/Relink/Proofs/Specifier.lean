import Relink.Proofs.Path.Shown
import Relink.Specifier

/-!
# Specifiers of files

The specifier of a file leads from the directory of its importer back to the file, with
the last name in its runtime spelling.
-/

namespace Relink

namespace Specifier

open Relink.Path

/-! ## The runtime spelling -/

theorem toRuntime_append_source (stem : Text) :
    toRuntime (stem ++ sourceEnding) = stem ++ runtimeEnding := by
  simp [toRuntime]

theorem toRuntime_of_not_suffix {text : Text} (absent : ¬ sourceEnding <:+ text) :
    toRuntime text = text := by
  simp [toRuntime, Text.dropEnding?_eq_none absent]

/-- Only what stands behind a slash changes. -/
theorem toRuntime_append_slash (front back : Text) :
    toRuntime (front ++ '/' :: back) = front ++ '/' :: toRuntime back := by
  have unmarked : '/' ∉ sourceEnding := by decide
  by_cases ends : sourceEnding <:+ back
  · obtain ⟨stem, rfl⟩ := ends
    have whole := toRuntime_append_source (front ++ '/' :: stem)
    rw [toRuntime_append_source]
    simpa using whole
  · have absent : ¬ sourceEnding <:+ front ++ '/' :: back := fun reaches =>
      ends ((Text.suffix_append_mark_iff unmarked front back).1 reaches)
    rw [toRuntime_of_not_suffix absent, toRuntime_of_not_suffix ends]

theorem isName_toRuntime {name : Text} (isName : IsName name) : IsName (toRuntime name) := by
  by_cases ends : sourceEnding <:+ name
  · obtain ⟨stem, rfl⟩ := ends
    rw [toRuntime_append_source]
    apply IsName.of_length
    · simp [runtimeEnding]
    · have clean := isName.noSlash
      simp only [Letters.mem_ofText, List.mem_append, not_or] at clean ⊢
      exact ⟨clean.1, by decide⟩
  · rwa [toRuntime_of_not_suffix ends]

/-- Texts have one runtime spelling if they are equal, or if they differ in that one ends
in the source ending where the other has the runtime ending. -/
theorem eq_or_endings_of_toRuntime_eq {first second : Text}
    (same : toRuntime first = toRuntime second) :
    first = second ∨
      ∃ stem, (first = stem ++ sourceEnding ∧ second = stem ++ runtimeEnding) ∨
        (first = stem ++ runtimeEnding ∧ second = stem ++ sourceEnding) := by
  by_cases firstEnds : sourceEnding <:+ first <;> by_cases secondEnds : sourceEnding <:+ second
  · obtain ⟨stem, rfl⟩ := firstEnds
    obtain ⟨other, rfl⟩ := secondEnds
    rw [toRuntime_append_source, toRuntime_append_source] at same
    exact Or.inl (by rw [List.append_cancel_right same])
  · obtain ⟨stem, rfl⟩ := firstEnds
    rw [toRuntime_append_source, toRuntime_of_not_suffix secondEnds] at same
    exact Or.inr ⟨stem, Or.inl ⟨rfl, same.symm⟩⟩
  · obtain ⟨stem, rfl⟩ := secondEnds
    rw [toRuntime_append_source, toRuntime_of_not_suffix firstEnds] at same
    exact Or.inr ⟨stem, Or.inr ⟨same, rfl⟩⟩
  · rw [toRuntime_of_not_suffix firstEnds, toRuntime_of_not_suffix secondEnds] at same
    exact Or.inl same

/-! ## Relative texts -/

theorem isRelative_iff {text : Text} :
    isRelative text = true ↔
      ∃ rest, text = ['.'] ++ '/' :: rest ∨ text = ['.', '.'] ++ '/' :: rest := by
  simp only [isRelative, Bool.or_eq_true, List.isPrefixOf_iff_prefix]
  constructor
  · rintro (⟨rest, rfl⟩ | ⟨rest, rfl⟩)
    · exact ⟨rest, Or.inl rfl⟩
    · exact ⟨rest, Or.inr rfl⟩
  · rintro ⟨rest, rfl | rfl⟩
    · exact Or.inl ⟨rest, rfl⟩
    · exact Or.inr ⟨rest, rfl⟩

theorem isAbsolute_of_isRelative {text : Text} (relative : isRelative text = true) :
    (.ofText text : Path).isAbsolute = false := by
  obtain ⟨rest, rfl | rfl⟩ := isRelative_iff.1 relative <;> rfl

theorem isRelative_makeRelative (way : Text) : isRelative (makeRelative way) = true := by
  unfold makeRelative
  split
  · assumption
  · exact isRelative_iff.2 ⟨way, Or.inl rfl⟩

theorem isRelative_toRuntime {text : Text} (relative : isRelative text = true) :
    isRelative (toRuntime text) = true := by
  obtain ⟨rest, rfl | rfl⟩ := isRelative_iff.1 relative
  · rw [toRuntime_append_slash]
    exact isRelative_iff.2 ⟨toRuntime rest, Or.inl rfl⟩
  · rw [toRuntime_append_slash]
    exact isRelative_iff.2 ⟨toRuntime rest, Or.inr rfl⟩

theorem isRelative_toFile (importer target : Path) :
    isRelative (toFile importer target) = true :=
  isRelative_toRuntime (isRelative_makeRelative _)

theorem stepsOf_makeRelative (way : Text) : stepsOf (makeRelative way) = stepsOf way := by
  unfold makeRelative
  split
  · rfl
  · exact stepsOf_current_slash way

/-- The last piece of a way stands behind the last slash once the way is made relative. -/
theorem makeRelative_concat (pieces : List Text) {last : Text} (noSlash : '/' ∉ last) :
    ∃ front, makeRelative (Text.joinWith '/' (pieces ++ [last])) = front ++ '/' :: last := by
  by_cases nonempty : pieces = []
  · subst nonempty
    have notRelative : ¬ isRelative last = true := by
      intro relative
      obtain ⟨rest, rfl | rfl⟩ := isRelative_iff.1 relative <;> simp at noSlash
    exact ⟨['.'], by simp [makeRelative, notRelative]⟩
  · rw [Text.joinWith_concat nonempty]
    unfold makeRelative
    split
    · exact ⟨Text.joinWith '/' pieces, rfl⟩
    · exact ⟨'.' :: '/' :: Text.joinWith '/' pieces, rfl⟩

/-! ## Specifiers of files -/

theorem stepsOf_climb (count : Nat) {names : List Text}
    (areNames : ∀ name ∈ names, IsName (Letters.ofText name)) :
    stepsOf (Letters.ofText (Text.joinWith '/' (List.replicate count ['.', '.'] ++ names))) =
      List.replicate count .parent ++ steps (names.map Letters.ofText) := by
  have spelled : (List.replicate count Component.parent ++
      steps (names.map Letters.ofText)).map Component.letters =
        (List.replicate count ['.', '.'] ++ names).map Letters.ofText := by
    rw [List.map_append, List.map_append, List.map_replicate, List.map_replicate,
      map_letters_steps]
    rfl
  rw [Letters.ofText_joinWith, ← spelled]
  apply stepsOf_joinWith
  intro step member
  rcases List.mem_append.1 member with climbs | descends
  · rw [List.eq_of_mem_replicate climbs]
    trivial
  · exact isPlain_of_mem_steps (by simpa using areNames) descends

/-- The way to a file that is neither the importer's directory nor above it ends in a name. -/
theorem exists_makeRelative_eq {directory target : Path}
    (directoryAbsolute : directory.isAbsolute = true) (absolute : target.isAbsolute = true)
    (below : ¬ target.names <+: directory.names) :
    ∃ front last, IsName (Letters.ofText last) ∧
      makeRelative (directory.relative target) = front ++ '/' :: last := by
  obtain ⟨shared, climbed, descended, directoryCut, targetCut, way⟩ :=
    relative_eq directoryAbsolute absolute
  obtain rfl | ⟨before, last, rfl⟩ := List.eq_nil_or_concat' descended
  · rw [List.append_nil] at targetCut
    exact absurd ⟨climbed, by rw [targetCut, directoryCut]⟩ below
  · have member : last ∈ target.names := by simp [targetCut]
    have lastName := Letters.isName_ofText_shown (isName_of_mem_names member)
    have noSlash : '/' ∉ last.shown := fun member => lastName.noSlash (Letters.mem_ofText.2 member)
    rw [way, List.map_append, List.map_singleton, ← List.append_assoc]
    obtain ⟨front, spelled⟩ := makeRelative_concat _ noSlash
    exact ⟨front, last.shown, lastName, spelled⟩

theorem namesDirectory_toFile {importer target : Path}
    (directory : importer.directory.isAbsolute = true) (absolute : target.isAbsolute = true)
    (below : ¬ target.names <+: importer.directory.names) :
    namesDirectory (toFile importer target) = false := by
  obtain ⟨front, last, lastName, spelled⟩ := exists_makeRelative_eq directory absolute below
  have isName := isName_toRuntime lastName
  have noSlash : '/' ∉ toRuntime last := fun member => isName.noSlash (Letters.mem_ofText.2 member)
  have nonempty : toRuntime last ≠ [] := by
    intro empty
    exact isName.nonempty (by rw [empty, Letters.ofText_nil])
  have ends := Text.getLast?_append_ne nonempty noSlash (front ++ ['/'])
  simpa [namesDirectory, toFile, spelled, toRuntime_append_slash] using ends

/-- What stands in front of the last slash of a relative text tells what stands in front of the
last slash of the path that the text leads to. -/
theorem exists_normalize_join_slash {directory : Path} (absolute : directory.isAbsolute = true)
    (front : Text) :
    ∃ above : Letters, ∀ name : Text, IsName (Letters.ofText name) →
      isRelative (front ++ '/' :: name) = true →
        (directory.join (.ofText (front ++ '/' :: name))).normalize =
          ⟨above ++ .char '/' :: Letters.ofText name⟩ := by
  obtain ⟨above, spelled⟩ :=
    letters_fromRoot_concat ((stepsOf (Letters.ofText front)).foldl follow directory.names)
  refine ⟨above, fun name isName relative => ?_⟩
  have taken : stepsOf (Letters.ofText (front ++ '/' :: name)) =
      stepsOf (Letters.ofText front) ++ [.name (Letters.ofText name)] := by
    have last : stepsOf (Letters.ofText name) = [.name (Letters.ofText name)] :=
      stepsOf_letters (show Component.IsPlain (.name _) from isName)
    rw [Letters.ofText_append, Letters.ofText_cons, stepsOf_append_slash, last]
  rw [normalize_eq_fromRoot (isAbsolute_join absolute _),
    names_join (isAbsolute_of_isRelative relative), taken, List.foldl_append]
  exact congrArg Path.mk (spelled (Letters.ofText name))

/-- Where a relative text leads with the source ending behind it, it leads with the runtime ending
behind it to the path with this ending. -/
theorem exists_normalize_join_append {directory : Path} (absolute : directory.isAbsolute = true)
    {stem : Text} (relative : isRelative (stem ++ sourceEnding) = true) :
    ∃ base : Path, ∀ ending ∈ [sourceEnding, runtimeEnding],
      (directory.join (.ofText (stem ++ ending))).normalize =
        ⟨base.letters ++ Letters.ofText ending⟩ := by
  have marked : '/' ∈ stem := by
    have within : '/' ∈ stem ++ sourceEnding := by
      obtain ⟨rest, shape | shape⟩ := isRelative_iff.1 relative <;> simp [shape]
    exact (List.mem_append.1 within).resolve_right (by decide)
  obtain ⟨front, piece, rfl, noSlash⟩ := Text.exists_last_of_mem marked
  obtain ⟨above, leads⟩ := exists_normalize_join_slash absolute front
  have alsoRelative := isRelative_toRuntime relative
  rw [toRuntime_append_source] at alsoRelative
  refine ⟨⟨above ++ .char '/' :: Letters.ofText piece⟩, fun ending member => ?_⟩
  simp only [List.mem_cons, List.not_mem_nil, or_false] at member
  have isName : IsName (Letters.ofText (piece ++ ending)) := by
    apply IsName.of_length
    · rcases member with rfl | rfl <;> simp [Letters.ofText, sourceEnding, runtimeEnding]
    · rw [Letters.mem_ofText, List.mem_append, not_or]
      exact ⟨noSlash, by rcases member with rfl | rfl <;> decide⟩
  have stillRelative : isRelative (front ++ '/' :: piece ++ ending) = true := by
    rcases member with rfl | rfl
    · exact relative
    · exact alsoRelative
  rw [List.append_assoc, List.cons_append] at stillRelative ⊢
  rw [leads _ isName stillRelative]
  simp

end Specifier

end Relink
