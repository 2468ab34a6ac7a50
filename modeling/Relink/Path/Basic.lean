import Relink.Path.Letter

/-!
# Paths

A path is spelled by letters with slashes among them.  It begins at the root, at an
explicit `.`, or plainly; what follows are segments between slashes.  Empty segments
and later `.` segments are blank: they belong to the spelling but name nothing, so
two paths are the same place by name when their components agree.  The text of a path
is what shows it.  It tells the path only if no stray bytes are in it.
-/

namespace Relink

/-- A path, as it is spelled. -/
structure Path where
  letters : Letters
deriving DecidableEq, Repr, Inhabited

/-- One step of a path. -/
inductive Component
  | root
  | current
  | parent
  | name (letters : Letters)
deriving DecidableEq, Repr

namespace Component

/-- The spelling of a component. -/
def letters : Component → Letters
  | root => [.char '/']
  | current => [.char '.']
  | parent => [.char '.', .char '.']
  | name letters => letters

/-- The text that shows a component. -/
def text (step : Component) : Text :=
  step.letters.shown

/-- The component a segment stands for, none for a blank segment. -/
def ofSegment? (segment : Letters) : Option Component :=
  if segment = [] ∨ segment = [.char '.'] then none
  else if segment = [.char '.', .char '.'] then some parent
  else some (name segment)

end Component

/-- How a path begins. -/
inductive Anchor
  | root
  | current
  | plain
deriving DecidableEq, Repr

/-- The component of a beginning. -/
def Anchor.components : Anchor → List Component
  | root => [.root]
  | current => [.current]
  | plain => []

namespace Path

/-- The path with no letters. -/
def empty : Path := ⟨[]⟩

/-- The path spelled by a text. -/
abbrev ofText (text : Text) : Path := ⟨Letters.ofText text⟩

/-- The path spelled by a string. -/
def ofString (text : String) : Path := ofText text.toList

/-- The text that shows the path. -/
def text (path : Path) : Text :=
  path.letters.shown

/-- Whether the path is the one that its text spells: no stray bytes are in it. -/
def IsText (path : Path) : Prop :=
  ofText path.text = path

instance (path : Path) : Decidable path.IsText :=
  inferInstanceAs (Decidable (_ = _))

instance : ToString Path := ⟨fun path => String.ofList path.text⟩

/-- How the path begins, and its segments after that. -/
def split (path : Path) : Anchor × List Letters :=
  match path.letters with
  | .char '/' :: rest => (.root, Text.splitOn (.char '/') rest)
  | [.char '.'] => (.current, [])
  | .char '.' :: .char '/' :: rest => (.current, Text.splitOn (.char '/') rest)
  | letters => (.plain, Text.splitOn (.char '/') letters)

/-- The path with a given beginning and segments. -/
def glue : Anchor → List Letters → Path
  | .root, segments => ⟨.char '/' :: Text.joinWith (.char '/') segments⟩
  | .current, [] => ⟨[.char '.']⟩
  | .current, segments => ⟨.char '.' :: .char '/' :: Text.joinWith (.char '/') segments⟩
  | .plain, segments => ⟨Text.joinWith (.char '/') segments⟩

/-- The steps of the path. -/
def components (path : Path) : List Component :=
  path.split.1.components ++ path.split.2.filterMap Component.ofSegment?

/-- Whether two paths take the same steps. -/
def same (first second : Path) : Bool :=
  first.components = second.components

/-- Whether the path begins at the root. -/
def isAbsolute (path : Path) : Bool :=
  path.letters.head? = some (.char '/')

/-- Whether a segment names nothing. -/
def isBlankSegment (segment : Letters) : Bool :=
  (Component.ofSegment? segment).isNone

/-- The last segment that is not blank, with the segments before it. -/
def splitLast? (segments : List Letters) : Option (List Letters × Letters) :=
  match segments.reverse.dropWhile isBlankSegment with
  | [] => none
  | last :: before => some (before.reverse, last)

/-- The segments without the blank ones at their end. -/
def trimBlank (segments : List Letters) : List Letters :=
  (segments.reverse.dropWhile isBlankSegment).reverse

/-- The path without its last component.  Neither the root nor the empty path
has a parent. -/
def parent? (path : Path) : Option Path :=
  match path.split with
  | (anchor, segments) =>
      match splitLast? segments with
      | some (before, _) => some (glue anchor (trimBlank before))
      | none => if anchor = .current then some empty else none

/-- The directory a file lies in, the empty path if it has no parent. -/
def directory (path : Path) : Path :=
  path.parent?.getD empty

/-- The last component, if it is a name. -/
def fileName? (path : Path) : Option Letters :=
  match path.components.getLast? with
  | some (.name letters) => some letters
  | _ => none

/-- The name before its last dot and after it.  A dot that only begins the name
separates nothing. -/
def splitName {α : Type} [DecidableEq α] (dot : α) (name : List α) :
    List α × Option (List α) :=
  match Text.splitAtLast? dot name with
  | none => (name, none)
  | some ([], _) => (name, none)
  | some (stem, extension) => (stem, some extension)

/-- What follows the last dot of the file name. -/
def extension? (path : Path) : Option Letters :=
  path.fileName?.bind fun name => (splitName (.char '.') name).2

/-- The path with the extension of its file name set, unchanged if it has no
file name.  Blank segments behind the name are dropped. -/
def withExtension (extension : Letters) (path : Path) : Path :=
  match path.split with
  | (anchor, segments) =>
      match splitLast? segments, path.fileName? with
      | some (before, _), some name =>
          glue anchor (before ++ [(splitName (.char '.') name).1 ++ .char '.' :: extension])
      | _, _ => path

/-- The path `target` as seen from `base`: itself if it is absolute, otherwise
below `base`. -/
def join (base target : Path) : Path :=
  if target.isAbsolute then target
  else if base.letters = [] ∨ base.letters.getLast? = some (.char '/') then
    ⟨base.letters ++ target.letters⟩
  else ⟨base.letters ++ .char '/' :: target.letters⟩

theorem glue_split (path : Path) : glue path.split.1 path.split.2 = path := by
  obtain ⟨letters⟩ := path
  unfold split
  split
  · rename_i rest spelled
    simp only at spelled
    simp [glue, spelled]
  · rename_i spelled
    simp only at spelled
    simp [glue, spelled]
  · rename_i rest spelled
    simp only at spelled
    cases pieces : Text.splitOn (.char '/') rest with
    | nil => exact absurd pieces (Text.splitOn_ne_nil (.char '/') rest)
    | cons piece more => simp [glue, ← pieces, spelled]
  · simp [glue]

theorem splitLast?_spec {segments before : List Letters} {last : Letters}
    (found : splitLast? segments = some (before, last)) :
    isBlankSegment last = false ∧ ∃ blanks, segments = before ++ last :: blanks := by
  unfold splitLast? at found
  split at found
  · simp at found
  · rename_i kept lastKept reversed shape
    simp only [Option.some.injEq, Prod.mk.injEq] at found
    obtain ⟨rfl, rfl⟩ := found
    have someLeft : segments.reverse.dropWhile isBlankSegment ≠ [] := by simp [shape]
    have notBlank := List.head_dropWhile_not isBlankSegment someLeft
    refine ⟨by simpa [shape] using notBlank,
      (segments.reverse.takeWhile isBlankSegment).reverse, ?_⟩
    have parts := List.takeWhile_append_dropWhile (p := isBlankSegment) (l := segments.reverse)
    rw [shape] at parts
    have restored := congrArg List.reverse parts
    rw [List.reverse_append, List.reverse_reverse] at restored
    simpa using restored.symm

theorem trimBlank_append (segments : List Letters) :
    ∃ blanks, segments = trimBlank segments ++ blanks := by
  refine ⟨(segments.reverse.takeWhile isBlankSegment).reverse, ?_⟩
  have parts := List.takeWhile_append_dropWhile (p := isBlankSegment) (l := segments.reverse)
  have restored := congrArg List.reverse parts
  rw [List.reverse_append, List.reverse_reverse] at restored
  exact restored.symm

theorem length_glue_lt (anchor : Anchor) (front : List Letters) {back : List Letters}
    {segment : Letters}
    (member : segment ∈ back) (nonempty : segment ≠ []) :
    (glue anchor front).letters.length < (glue anchor (front ++ back)).letters.length := by
  have shorter := Text.length_joinWith_lt (.char '/') front member nonempty
  cases anchor with
  | root => simpa [glue] using shorter
  | plain => simpa [glue] using shorter
  | current =>
      cases front with
      | nil =>
          cases back with
          | nil => simp at member
          | cons first rest => simp [glue]
      | cons first rest => simpa [glue] using shorter

/-- A parent is spelled with fewer letters. -/
theorem length_parent?_lt {path above : Path} (step : path.parent? = some above) :
    above.letters.length < path.letters.length := by
  have restored := glue_split path
  unfold parent? at step
  generalize path.split = parts at step restored
  obtain ⟨anchor, segments⟩ := parts
  simp only at step restored
  cases found : splitLast? segments with
  | some pair =>
      obtain ⟨before, last⟩ := pair
      obtain ⟨notBlank, blanks, rfl⟩ := splitLast?_spec found
      obtain ⟨dropped, shape⟩ := trimBlank_append before
      simp only [found, Option.some.injEq] at step
      have nonempty : last ≠ [] := by
        rintro rfl
        simp [isBlankSegment, Component.ofSegment?] at notBlank
      have shorter : (glue anchor (trimBlank before)).letters.length <
          (glue anchor (trimBlank before ++ (dropped ++ last :: blanks))).letters.length :=
        length_glue_lt anchor (trimBlank before) (by simp) nonempty
      rw [← List.append_assoc, ← shape, restored, step] at shorter
      exact shorter
  | none =>
      simp only [found] at step
      split at step
      · rename_i isCurrent
        subst isCurrent
        simp only [Option.some.injEq] at step
        subst step
        rw [← restored]
        cases segments <;> simp [glue, empty]
      · simp at step

/-- The path and the directories above it, the nearest first. -/
def ancestors (path : Path) : List Path :=
  path ::
    match _step : path.parent? with
    | some above => above.ancestors
    | none => []
termination_by path.letters.length
decreasing_by exact length_parent?_lt _step

end Path

end Relink
