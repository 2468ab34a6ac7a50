import Relink.Proofs.Extension
import Relink.Proofs.Path.Rooted

/-!
# File names

A file name is the last segment of a path, unless blank segments follow.  Setting its extension
puts another name in its place and leaves all before it as it is spelled.  A name has an extension
exactly if a dot stands behind its first character, so that appending an ending to a name without
extension is the same as appending it to the path.
-/

namespace Relink

/-- What a name ends is a name. -/
theorem IsName.of_suffix {name piece : Letters} (isName : IsName name) (ends : name <:+ piece)
    (noSlash : .char '/' ∉ piece) : IsName piece := by
  obtain ⟨front, rfl⟩ := ends
  rcases front with _ | ⟨first, _ | ⟨second, rest⟩⟩
  · exact isName
  · refine ⟨by simp, ?_, ?_, noSlash⟩
    · simp [isName.nonempty]
    · simp [isName.notCurrent]
  · refine ⟨by simp, by simp, ?_, noSlash⟩
    simp [isName.nonempty]

theorem IsName.append_dot {name ending : Letters} (isName : IsName name)
    (noSlash : .char '/' ∉ ending) :
    IsName (name ++ .char '.' :: ending) := by
  refine ⟨by simp, ?_, ?_, by simp [isName.noSlash, noSlash]⟩
  · simp [List.append_eq_singleton_iff, isName.nonempty]
  · rcases name with _ | ⟨first, _ | ⟨second, rest⟩⟩
    · exact absurd rfl isName.nonempty
    · intro climbs
      have isDot : first = (.char '.') := (List.cons.inj climbs).1
      exact isName.notCurrent (by rw [isDot])
    · simp

namespace Path

open Component

/-! ## Names with dots -/

theorem splitName_of_not_mem {name : Letters} (noDot : .char '.' ∉ name.tail) :
    splitName (.char '.') name = (name, none) := by
  cases name with
  | nil => rfl
  | cons first rest =>
      have restNoDot : .char '.' ∉ rest := noDot
      by_cases hidden : first = (.char '.')
      · subst hidden
        have cut := Text.splitAtLast?_append restNoDot []
        rw [List.nil_append] at cut
        simp [splitName, cut]
      · have absent : .char '.' ∉ first :: rest := by simp [Ne.symm hidden, restNoDot]
        simp [splitName, Text.splitAtLast?_of_not_mem absent]

theorem splitName_of_mem {name : Letters} (dotted : .char '.' ∈ name.tail) :
    (splitName (.char '.') name).2.isSome = true := by
  cases name with
  | nil => cases dotted
  | cons first rest =>
      have restDotted : .char '.' ∈ rest := dotted
      obtain ⟨before, after, rfl, noDot⟩ := Text.exists_last_of_mem restDotted
      have cut := splitName_append (List.cons_ne_nil first before) noDot
      rw [← List.cons_append, cut]
      rfl

/-! ## The last segment -/

theorem split_of_isName {name : Letters} (isName : IsName name) :
    split ⟨name⟩ = (.plain, [name]) := by
  have cut := Text.splitOn_of_not_mem isName.noSlash
  have plain := Course.split_of_splitOn cut isName.nonempty isName.notCurrent
  unfold split at plain ⊢
  split at plain
  · cases plain
  · cases plain
  · cases plain
  · simp [cut]

/-- What stands behind a slash adds its pieces to the segments before it. -/
theorem split_append_slash {front : Letters} (nonempty : front ≠ []) (back : Letters) :
    split ⟨front ++ .char '/' :: back⟩ =
      ((split ⟨front⟩).1, (split ⟨front⟩).2 ++ Text.splitOn (.char '/') back) := by
  rcases front with _ | ⟨first, _ | ⟨second, rest⟩⟩
  · exact absurd rfl nonempty
  · by_cases root : first = (.char '/')
    · subst root
      rfl
    · by_cases dot : first = (.char '.')
      · subst dot
        rfl
      · simp [split, Text.splitOn, root, dot]
  · by_cases root : first = (.char '/')
    · subst root
      exact congrArg (Prod.mk Anchor.root) (Text.splitOn_append_mark (second :: rest) back)
    · by_cases dot : first = (.char '.') ∧ second = (.char '/')
      · obtain ⟨rfl, rfl⟩ := dot
        exact congrArg (Prod.mk Anchor.current) (Text.splitOn_append_mark rest back)
      · have plain (behind : Letters) : split ⟨first :: second :: behind⟩ =
            (.plain, Text.splitOn (.char '/') (first :: second :: behind)) := by
          unfold split
          split <;> simp_all
        rw [List.cons_append, List.cons_append, plain, plain, ← List.cons_append,
          ← List.cons_append, Text.splitOn_append_mark]

/-- A name behind a path is its last segment. -/
theorem exists_split_join (folder : Path) :
    ∃ anchor before, ∀ {name : Letters}, IsName name →
      (folder.join ⟨name⟩).split = (anchor, before ++ [name]) := by
  have behindSlash (front : Letters) : ∃ anchor before, ∀ {name : Letters}, IsName name →
      split ⟨front ++ .char '/' :: name⟩ = (anchor, before ++ [name]) := by
    by_cases empty : front = []
    · subst empty
      refine ⟨.root, [], fun isName => ?_⟩
      exact congrArg (Prod.mk Anchor.root) (Text.splitOn_of_not_mem isName.noSlash)
    · refine ⟨(split ⟨front⟩).1, (split ⟨front⟩).2, fun isName => ?_⟩
      rw [split_append_slash empty, Text.splitOn_of_not_mem isName.noSlash]
  by_cases empty : folder.letters = []
  · refine ⟨.plain, [], fun isName => ?_⟩
    rw [join_of_not_mem folder isName.noSlash, if_pos (Or.inl empty), empty]
    exact split_of_isName isName
  by_cases slash : folder.letters.getLast? = some (.char '/')
  · obtain ⟨front, shape⟩ := List.getLast?_eq_some_iff.1 slash
    obtain ⟨anchor, before, cut⟩ := behindSlash front
    refine ⟨anchor, before, fun isName => ?_⟩
    rw [join_of_not_mem folder isName.noSlash, if_pos (Or.inr slash), shape, List.append_assoc]
    exact cut isName
  · obtain ⟨anchor, before, cut⟩ := behindSlash folder.letters
    refine ⟨anchor, before, fun isName => ?_⟩
    rw [join_of_not_mem folder isName.noSlash, if_neg (not_or.2 ⟨empty, slash⟩)]
    exact cut isName

/-- Setting the extension of a file name puts another name in its place. -/
theorem withExtension_join (folder : Path) {name extension : Letters} (isName : IsName name)
    (isNext : IsName ((splitName (.char '.') name).1 ++ .char '.' :: extension)) :
    (folder.join ⟨name⟩).withExtension extension =
      folder.join ⟨(splitName (.char '.') name).1 ++ .char '.' :: extension⟩ := by
  obtain ⟨anchor, before, cut⟩ := exists_split_join folder
  have spelled :=
    glue_split (folder.join ⟨(splitName (.char '.') name).1 ++ .char '.' :: extension⟩)
  rw [cut isNext] at spelled
  simp only [withExtension, cut isName, splitLast?_concat before isName,
    fileName?_join folder isName, spelled]

/-! ## Spellings that end in a file name -/

theorem isName_of_fileName? {path : Path} {name : Letters} (named : path.fileName? = some name) :
    IsName name := by
  have member : Component.name name ∈ path.components := by
    unfold fileName? at named
    split at named
    · rename_i last isLast
      obtain rfl := Option.some.inj named
      exact List.mem_of_getLast? isLast
    · cases named
  rw [components_eq] at member
  rcases List.mem_append.1 member with begins | follows
  · cases anchor : path.split.1 <;> simp [anchor, Anchor.components] at begins
  · exact isPlain_of_mem_stepsOf follows

theorem exists_folder (letters : Letters) :
    ∃ (folder : Path) (piece : Letters), .char '/' ∉ piece ∧
      (⟨letters⟩ : Path) = folder.join ⟨piece⟩ := by
  by_cases slashed : .char '/' ∈ letters
  · obtain ⟨before, after, rfl, noSlash⟩ := Text.exists_last_of_mem slashed
    refine ⟨⟨before ++ [.char '/']⟩, after, noSlash, ?_⟩
    rw [join_of_not_mem _ noSlash]
    simp
  · refine ⟨empty, letters, slashed, ?_⟩
    rw [join_of_not_mem _ slashed]
    simp [empty]

/-- A spelling that ends in its file name is this name behind a path. -/
theorem exists_folder_of_fileName? {letters name : Letters}
    (named : (⟨letters⟩ : Path).fileName? = some name) (endsInName : name <:+ letters) :
    ∃ folder : Path, (⟨letters⟩ : Path) = folder.join ⟨name⟩ := by
  have isName := isName_of_fileName? named
  obtain ⟨folder, piece, noSlash, spelled⟩ := exists_folder letters
  have within : name <:+ piece := by
    rw [← suffix_letters_join_iff folder noSlash isName.noSlash, ← spelled]
    exact endsInName
  have isPiece := isName.of_suffix within noSlash
  rw [spelled, fileName?_join folder isPiece, Option.some.injEq] at named
  exact ⟨folder, by rw [spelled, named]⟩

/-- Setting the extension of a file without one appends it. -/
theorem withExtension_eq_append {letters name extension : Letters}
    (named : (⟨letters⟩ : Path).fileName? = some name) (endsInName : name <:+ letters)
    (undotted : .char '.' ∉ name.tail) (noSlash : .char '/' ∉ extension) :
    (⟨letters⟩ : Path).withExtension extension = ⟨letters ++ .char '.' :: extension⟩ := by
  have isName := isName_of_fileName? named
  have kept := splitName_of_not_mem undotted
  have isNext : IsName ((splitName (.char '.') name).1 ++ .char '.' :: extension) := by
    rw [kept]
    exact isName.append_dot noSlash
  have endingNoSlash : .char '/' ∉ .char '.' :: extension := by simp [noSlash]
  obtain ⟨folder, spelled⟩ := exists_folder_of_fileName? named endsInName
  calc
    (⟨letters⟩ : Path).withExtension extension = (folder.join ⟨name⟩).withExtension extension := by
      rw [spelled]
    _ = folder.join ⟨name ++ .char '.' :: extension⟩ := by
      rw [withExtension_join folder isName isNext, kept]
    _ = ⟨(folder.join ⟨name⟩).letters ++ .char '.' :: extension⟩ :=
      (letters_join_append folder isName.noSlash endingNoSlash).symm
    _ = ⟨letters ++ .char '.' :: extension⟩ := by rw [← spelled]

end Path

end Relink
