import Relink.Proofs.Path.Joined

/-!
# Directories of paths

A path that takes a step besides the root has a parent, which takes all of its steps but the
last.  So the directories above a path are told by its steps, however the path is spelled,
and a path with a file name is this name behind the steps of its directory.
-/

namespace Relink

namespace Path

open Component

/-! ## Blank segments -/

theorem filterMap_dropWhile_blank (segments : List Letters) :
    (segments.dropWhile isBlankSegment).filterMap ofSegment? = segments.filterMap ofSegment? := by
  induction segments with
  | nil => rfl
  | cons segment rest ih =>
      cases blank : isBlankSegment segment with
      | false => simp [blank]
      | true =>
          have read : ofSegment? segment = none := by simpa [isBlankSegment] using blank
          simp [blank, read, ih]

theorem filterMap_trimBlank (segments : List Letters) :
    (trimBlank segments).filterMap ofSegment? = segments.filterMap ofSegment? := by
  rw [trimBlank, List.filterMap_reverse, filterMap_dropWhile_blank, List.filterMap_reverse,
    List.reverse_reverse]

/-- The last segment that is not blank stands for the last step. -/
theorem exists_filterMap_of_splitLast? {segments before : List Letters} {last : Letters}
    (found : splitLast? segments = some (before, last)) :
    ∃ step, ofSegment? last = some step ∧
      segments.filterMap ofSegment? = before.filterMap ofSegment? ++ [step] := by
  obtain ⟨notBlank, -⟩ := splitLast?_spec found
  unfold splitLast? at found
  split at found
  · cases found
  · rename_i kept behind shape
    simp only [Option.some.injEq, Prod.mk.injEq] at found
    obtain ⟨rfl, rfl⟩ := found
    cases read : ofSegment? kept with
    | none => simp [isBlankSegment, read] at notBlank
    | some step =>
        refine ⟨step, rfl, ?_⟩
        have reversed := filterMap_dropWhile_blank segments.reverse
        rw [shape, List.filterMap_cons, read, List.filterMap_reverse] at reversed
        have restored := congrArg List.reverse reversed
        rw [List.reverse_reverse] at restored
        rw [← restored, List.filterMap_reverse, List.reverse_cons]

theorem filterMap_ofSegment?_of_splitLast? {segments : List Letters}
    (found : splitLast? segments = none) : segments.filterMap ofSegment? = [] := by
  have blank : segments.reverse.dropWhile isBlankSegment = [] := by
    unfold splitLast? at found
    split at found
    · assumption
    · simp at found
  rw [List.filterMap_eq_nil_iff]
  intro segment member
  have passed := List.dropWhile_eq_nil_iff.1 blank segment (List.mem_reverse.2 member)
  simpa [isBlankSegment] using passed

/-! ## Paths that are cut off -/

/-- A path that begins plainly and has a slash has something before the slash. -/
theorem head_of_split_plain {path : Path} {first : Letters} {rest : List Letters} (more : rest ≠ [])
    (cut : path.split = (.plain, first :: rest)) : first ≠ [] ∧ first ≠ [.char '.'] := by
  have spelled := glue_split path
  rw [cut, glue, Text.joinWith_cons more] at spelled
  subst spelled
  constructor
  · rintro rfl
    simp [split] at cut
  · rintro rfl
    simp [split] at cut

theorem noSlash_of_mem_split (path : Path) {segment : Letters} (member : segment ∈ path.split.2) :
    .char '/' ∉ segment := by
  obtain ⟨letters⟩ := path
  unfold split at member
  split at member
  · exact Text.not_mem_of_mem_splitOn member
  · cases member
  · exact Text.not_mem_of_mem_splitOn member
  · exact Text.not_mem_of_mem_splitOn member

theorem stepsOf_joinWith_segments {segments : List Letters}
    (noSlash : ∀ segment ∈ segments, .char '/' ∉ segment) :
    stepsOf (Text.joinWith (.char '/') segments) = segments.filterMap ofSegment? := by
  by_cases nonempty : segments = []
  · subst nonempty
    rfl
  · rw [stepsOf, Text.splitOn_joinWith nonempty noSlash]

/-- A path that is cut off behind some of its segments takes the steps of these. -/
theorem components_glue {path : Path} {anchor : Anchor} {front back : List Letters}
    (cut : path.split = (anchor, front ++ back)) (more : back ≠ []) :
    (glue anchor front).components = anchor.components ++ front.filterMap ofSegment? := by
  have noSlash : ∀ segment ∈ front, .char '/' ∉ segment := fun segment member =>
    noSlash_of_mem_split path (by rw [cut]; exact List.mem_append_left back member)
  have taken := stepsOf_joinWith_segments noSlash
  cases anchor with
  | root =>
      rw [components_of_isAbsolute rfl, glue, stepsOf_slash, taken]
      rfl
  | current =>
      cases front with
      | nil => rfl
      | cons first rest =>
          rw [components_eq, glue, stepsOf_current_slash, taken]
          · rfl
          · exact List.cons_ne_nil first rest
  | plain =>
      cases front with
      | nil => rfl
      | cons first rest =>
          have proper := head_of_split_plain (by simp [more]) cut
          have pieces := Text.splitOn_joinWith (List.cons_ne_nil first rest) noSlash
          rw [components_eq, glue, Course.split_of_splitOn pieces proper.1 proper.2, taken]

/-! ## Parents -/

/-- A path with a segment that is not blank has a parent, which lacks the step of this
segment. -/
theorem exists_parent?_of_splitLast? {path : Path} {anchor : Anchor}
    {segments before : List Letters} {last : Letters} (cut : path.split = (anchor, segments))
    (found : splitLast? segments = some (before, last)) :
    ∃ above step, path.parent? = some above ∧ step ≠ .root ∧
      path.components = above.components ++ [step] := by
  have taken : path.components = anchor.components ++ segments.filterMap ofSegment? := by
    rw [components, cut]
  obtain ⟨step, read, steps⟩ := exists_filterMap_of_splitLast? found
  obtain ⟨-, blanks, rfl⟩ := splitLast?_spec found
  obtain ⟨dropped, shape⟩ := trimBlank_append before
  have isParent : path.parent? = some (glue anchor (trimBlank before)) := by
    simp [parent?, cut, found]
  -- The parent is the path cut off before the blank segments that precede its last step.
  have cutOff : path.split = (anchor, trimBlank before ++ (dropped ++ last :: blanks)) := by
    rw [cut, ← List.append_assoc, ← shape]
  have above : (glue anchor (trimBlank before)).components =
      anchor.components ++ before.filterMap ofSegment? := by
    rw [components_glue cutOff (by simp), filterMap_trimBlank]
  have plain : step.IsPlain :=
    isPlain_of_ofSegment? read (noSlash_of_mem_split path (by simp [cut]))
  refine ⟨_, step, isParent, ?_, ?_⟩
  · rintro rfl
    exact plain
  · rw [above, taken, steps, List.append_assoc]

/-- A parent takes all steps but the last.  Only the root and the empty path have none. -/
theorem parent?_cases (path : Path) :
    (path.parent? = none ∧ (path.components = [] ∨ path.components = [.root])) ∨
      ∃ above step, path.parent? = some above ∧ step ≠ .root ∧
        path.components = above.components ++ [step] := by
  obtain ⟨⟨anchor, segments⟩, cut⟩ : ∃ parts, path.split = parts := ⟨_, rfl⟩
  cases found : splitLast? segments with
  | some pair => exact Or.inr (exists_parent?_of_splitLast? cut found)
  | none =>
      have taken : path.components = anchor.components := by
        rw [components, cut, filterMap_ofSegment?_of_splitLast? found, List.append_nil]
      cases anchor with
      | root => exact Or.inl ⟨by simp [parent?, cut, found], Or.inr taken⟩
      | plain => exact Or.inl ⟨by simp [parent?, cut, found], Or.inl taken⟩
      | current =>
          -- A dot alone lies in the empty path.
          have isParent : path.parent? = some empty := by simp [parent?, cut, found]
          exact Or.inr ⟨empty, .current, isParent, by simp, taken⟩

theorem parent?_eq_none_iff {path : Path} :
    path.parent? = none ↔ path.components = [] ∨ path.components = [.root] := by
  rcases parent?_cases path with ⟨orphan, short⟩ | ⟨above, step, isParent, notRoot, taken⟩
  · exact iff_of_true orphan short
  · refine iff_of_false (by simp [isParent]) ?_
    rw [taken]
    rintro (empty | root)
    · simp at empty
    · have last := congrArg List.getLast? root
      rw [List.getLast?_concat] at last
      exact notRoot (Option.some.inj last)

theorem parent?_ne_none {path : Path} {step : Component} (member : step ∈ path.components)
    (notRoot : step ≠ .root) : path.parent? ≠ none := by
  rw [ne_eq, parent?_eq_none_iff]
  rintro (empty | root)
  · simp [empty] at member
  · rw [root, List.mem_singleton] at member
    exact notRoot member

theorem components_of_parent? {path above : Path} (isParent : path.parent? = some above) :
    above.components = path.components.dropLast := by
  rcases parent?_cases path with ⟨orphan, -⟩ | ⟨other, step, isOther, -, taken⟩
  · rw [orphan] at isParent
    cases isParent
  · rw [isParent, Option.some.injEq] at isOther
    rw [taken, isOther, List.dropLast_concat]

/-! ## File names -/

/-- The directory of a path with a file name takes all steps but this name. -/
theorem components_of_fileName? {path : Path} {name : Letters}
    (named : path.fileName? = some name) :
    path.components = path.directory.components ++ [.name name] := by
  unfold fileName? at named
  rcases parent?_cases path with ⟨-, orphan⟩ | ⟨above, step, isParent, -, taken⟩
  · rcases orphan with empty | root
    · simp [empty] at named
    · simp [root] at named
  · rw [taken, List.getLast?_concat] at named
    have isDirectory : path.directory = above := by rw [directory, isParent, Option.getD_some]
    cases step <;> simp_all

/-- Normalising a path with a file name normalises its directory. -/
theorem collapse_of_fileName? {path : Path} {name : Letters} (named : path.fileName? = some name) :
    collapse path.components = collapse path.directory.components ++ [.name name] := by
  rw [components_of_fileName? named, collapse, collapse, List.foldl_append]
  simp [push]

/-- Spellings of one file have one file name, and directories that are one place. -/
theorem fileName?_and_directory_of_normalize_eq {first second : Path} {name other : Letters}
    (firstNamed : first.fileName? = some name) (secondNamed : second.fileName? = some other)
    (same : first.normalize = second.normalize) :
    name = other ∧ first.directory.normalize = second.directory.normalize := by
  rw [normalize_eq_iff, collapse_of_fileName? firstNamed, collapse_of_fileName? secondNamed] at same
  obtain ⟨directories, names⟩ := List.append_inj' same rfl
  exact ⟨by simpa using names, normalize_eq_iff.2 directories⟩

/-! ## Ancestors -/

theorem ancestors_of_parent? {path above : Path} (step : path.parent? = some above) :
    path.ancestors = path :: above.ancestors := by
  rw [ancestors]
  split
  · rename_i parent isParent
    rw [step, Option.some.injEq] at isParent
    rw [isParent]
  · rename_i noParent
    simp [step] at noParent

theorem ancestors_of_parent?_eq_none {path : Path} (orphan : path.parent? = none) :
    path.ancestors = [path] := by
  rw [ancestors]
  split
  · rename_i above isParent
    rw [orphan] at isParent
    cases isParent
  · rfl

/-- Paths that take the same steps have ancestors that take the same steps, level by level. -/
theorem forall₂_ancestors {first second : Path} (same : first.components = second.components) :
    List.Forall₂ (fun above other : Path => above.components = other.components)
      first.ancestors second.ancestors := by
  induction first using ancestors.induct generalizing second with
  | case1 first ih =>
      cases isParent : first.parent? with
      | none =>
          have alsoNone : second.parent? = none := by
            rwa [parent?_eq_none_iff, ← same, ← parent?_eq_none_iff]
          rw [ancestors_of_parent?_eq_none isParent, ancestors_of_parent?_eq_none alsoNone]
          exact .cons same .nil
      | some above =>
          cases isOther : second.parent? with
          | none =>
              rw [parent?_eq_none_iff, ← same, ← parent?_eq_none_iff, isParent] at isOther
              cases isOther
          | some other =>
              rw [ancestors_of_parent? isParent, ancestors_of_parent? isOther]
              have higher : above.components = other.components := by
                rw [components_of_parent? isParent, components_of_parent? isOther, same]
              exact .cons same (ih above isParent higher)

end Path

end Relink
