import Mathlib.Data.List.Infix
import Relink.Proofs.Path.Steps

/-!
# Normal paths

Once `.` and `..` are collapsed, a path goes through names from where it begins, which
is the root or some levels above the place it is looked at from.  Every normal path is
spelled by such a course, and is a normal directory with one more piece behind it.  So a
name below a normal path makes a normal path again.
-/

namespace Relink

namespace Path

open Component

/-! ## Names -/

/-- The steps that lead through the given names. -/
def steps (names : List Letters) : List Component :=
  names.map .name

theorem isPlain_of_mem_steps {names : List Letters} (areNames : ∀ name ∈ names, IsName name)
    {step : Component} (member : step ∈ steps names) : step.IsPlain := by
  obtain ⟨name, among, rfl⟩ := List.mem_map.1 member
  exact areNames name among

theorem map_letters_steps (names : List Letters) : (steps names).map Component.letters = names := by
  rw [steps, List.map_map]
  exact List.map_id names

theorem map_text_steps (names : List Letters) :
    (steps names).map Component.text = names.map Letters.shown := by
  rw [steps, List.map_map]
  rfl

theorem stepsOf_slash_joinWith {names : List Letters} (areNames : ∀ name ∈ names, IsName name) :
    stepsOf (.char '/' :: Text.joinWith (.char '/') names) = steps names := by
  have spelled := stepsOf_joinWith fun _ => isPlain_of_mem_steps areNames
  rw [map_letters_steps] at spelled
  rw [stepsOf_slash, spelled]

end Path

/-! ## Courses -/

/-- Where the names of a path begin: at the root, or some levels above the place that the
path is looked at from. -/
inductive Origin
  | root
  | above (levels : Nat)
deriving DecidableEq, Repr

namespace Origin

/-- The steps that lead to the origin. -/
def components : Origin → List Component
  | root => [.root]
  | above levels => List.replicate levels .parent

/-- What a path from the origin is spelled with before its first piece. -/
def start : Origin → Letters
  | root => [.char '/']
  | above _ => []

/-- The pieces that lead to the origin. -/
def climb : Origin → List Letters
  | root => []
  | above levels => List.replicate levels [.char '.', .char '.']

end Origin

/-- An origin and the names that are gone through from there. -/
structure Course where
  origin : Origin
  names : List Letters
  areNames : ∀ name ∈ names, IsName name

namespace Course

open Component Relink.Path

/-- The steps of a course. -/
def components (course : Course) : List Component :=
  course.origin.components ++ Path.steps course.names

/-- The pieces between the slashes of the path. -/
def pieces (course : Course) : List Letters :=
  course.origin.climb ++ course.names

/-- The path that takes the course. -/
def path (course : Course) : Path :=
  ⟨course.origin.start ++ Text.joinWith (.char '/') course.pieces⟩

/-- The course that stays where it begins. -/
def ofOrigin (origin : Origin) : Course where
  origin := origin
  names := []
  areNames := List.forall_mem_nil _

/-- The course with one more name. -/
def below (course : Course) (name : Letters) (isName : IsName name) : Course where
  origin := course.origin
  names := course.names ++ [name]
  areNames := by
    intro other member
    rcases List.mem_append.1 member with earlier | latest
    · exact course.areNames other earlier
    · obtain rfl := List.mem_singleton.1 latest
      exact isName

theorem eq_ofOrigin_or_below (course : Course) :
    (∃ origin, course = ofOrigin origin) ∨
      ∃ (before : Course) (last : Letters) (isName : IsName last),
        course = before.below last isName := by
  obtain ⟨origin, names, areNames⟩ := course
  rcases List.eq_nil_or_concat' names with rfl | ⟨before, last, rfl⟩
  · exact Or.inl ⟨origin, rfl⟩
  · have beforeNames : ∀ name ∈ before, IsName name := fun name member =>
      areNames name (List.mem_append_left [last] member)
    exact Or.inr ⟨⟨origin, before, beforeNames⟩, last, areNames last (by simp), rfl⟩

/-! ## The path of a course -/

/-- A spelling whose first piece is neither empty nor a dot begins plainly. -/
theorem split_of_splitOn {letters first : Letters} {rest : List Letters}
    (cut : Text.splitOn (.char '/') letters = first :: rest) (nonempty : first ≠ [])
    (notCurrent : first ≠ [.char '.']) : (split ⟨letters⟩).1 = .plain := by
  unfold split
  split
  · rename_i behind spelled
    simp only at spelled
    rw [spelled, ← List.nil_append (.char '/' :: behind), Text.splitOn_append_mark] at cut
    exact absurd (List.cons.inj cut).1.symm nonempty
  · rename_i spelled
    simp only at spelled
    rw [spelled] at cut
    exact absurd (List.cons.inj cut).1.symm notCurrent
  · rename_i behind spelled
    simp only at spelled
    have shape : .char '.' :: .char '/' :: behind = [.char '.'] ++ .char '/' :: behind := rfl
    rw [spelled, shape, Text.splitOn_append_mark] at cut
    exact absurd (List.cons.inj cut).1.symm notCurrent
  · rfl

theorem letters_ne_of_isPlain {step : Component} (plain : step.IsPlain) :
    step.letters ≠ [] ∧ step.letters ≠ [.char '.'] := by
  cases step with
  | root => exact plain.elim
  | current => exact plain.elim
  | parent => simp [Component.letters]
  | name letters => exact ⟨IsName.nonempty plain, IsName.notCurrent plain⟩

theorem components_joinWith {steps : List Component} (plain : ∀ step ∈ steps, step.IsPlain) :
    (⟨Text.joinWith (.char '/') (steps.map Component.letters)⟩ : Path).components = steps := by
  rw [components_eq, stepsOf_joinWith plain]
  cases steps with
  | nil => rfl
  | cons first rest =>
      have unmarked : ∀ piece ∈ (first :: rest).map Component.letters, .char '/' ∉ piece := by
        intro piece member
        obtain ⟨step, among, rfl⟩ := List.mem_map.1 member
        exact not_slash_mem_letters (plain step among)
      have cut := Text.splitOn_joinWith (by simp) unmarked
      have proper := letters_ne_of_isPlain (plain first List.mem_cons_self)
      rw [split_of_splitOn cut proper.1 proper.2]
      rfl

theorem components_path (course : Course) : course.path.components = course.components := by
  obtain ⟨origin, names, areNames⟩ := course
  cases origin with
  | root =>
      have absolute : (path ⟨.root, names, areNames⟩).isAbsolute = true := rfl
      rw [components_of_isAbsolute absolute]
      change .root :: stepsOf (.char '/' :: Text.joinWith (.char '/') names) = _
      rw [stepsOf_slash_joinWith areNames]
      rfl
  | above levels =>
      have plain : ∀ step ∈ components ⟨.above levels, names, areNames⟩, step.IsPlain := by
        intro step member
        rcases List.mem_append.1 member with climbs | descends
        · rw [List.eq_of_mem_replicate climbs]
          trivial
        · exact isPlain_of_mem_steps areNames descends
      have spelled := components_joinWith plain
      rw [components, List.map_append, map_letters_steps] at spelled
      simpa [path, pieces, Origin.start, Origin.climb, Origin.components, components,
        Component.letters] using spelled

theorem ofComponents_components (course : Course) :
    ofComponents course.components = course.path := by
  obtain ⟨origin, names, areNames⟩ := course
  cases origin with
  | root =>
      change (⟨.char '/' ::
        Text.joinWith (.char '/') ((steps names).map Component.letters)⟩ : Path) = _
      rw [map_letters_steps]
      rfl
  | above levels =>
      have texts : (components ⟨.above levels, names, areNames⟩).map Component.letters =
          pieces ⟨.above levels, names, areNames⟩ := by
        rw [components, List.map_append, map_letters_steps]
        simp [pieces, Origin.climb, Origin.components, Component.letters]
      have unrooted : ∀ rest, components ⟨.above levels, names, areNames⟩ ≠ .root :: rest := by
        intro rest rooted
        cases levels with
        | zero => cases names <;> simp [components, Origin.components, steps] at rooted
        | succ more => simp [components, Origin.components, List.replicate_succ] at rooted
      unfold ofComponents
      split
      · rename_i rest rooted
        exact absurd rooted (unrooted rest)
      · rw [texts]
        rfl

/-! ## Collapsing -/

theorem push_parents (levels : Nat) :
    push (List.replicate levels .parent) .parent = List.replicate (levels + 1) .parent := by
  cases levels <;> rfl

/-- One more step from the end of a course leads to the end of a course. -/
theorem exists_push (course : Course) {step : Component} (plain : step.IsPlain) :
    ∃ next : Course, push course.components.reverse step = next.components.reverse := by
  cases step with
  | root => exact plain.elim
  | current => exact plain.elim
  | name letters => exact ⟨course.below letters plain, by simp [push, below, components, steps]⟩
  | parent =>
      rcases course.eq_ofOrigin_or_below with ⟨origin, rfl⟩ | ⟨before, last, isName, rfl⟩
      · -- There is no name to take back: the root stays, and all else is left behind.
        cases origin with
        | root => exact ⟨ofOrigin .root, rfl⟩
        | above levels =>
            refine ⟨ofOrigin (.above (levels + 1)), ?_⟩
            simpa [ofOrigin, components, Origin.components, steps] using push_parents levels
      · exact ⟨before, by simp [push, below, components, steps]⟩

theorem exists_foldl_push (course : Course) {taken : List Component}
    (plain : ∀ step ∈ taken, step.IsPlain) :
    ∃ next : Course, taken.foldl push course.components.reverse = next.components.reverse := by
  induction taken generalizing course with
  | nil => exact ⟨course, rfl⟩
  | cons step rest ih =>
      obtain ⟨next, pushed⟩ := course.exists_push (plain step List.mem_cons_self)
      rw [List.foldl_cons, pushed]
      exact ih next fun other member => plain other (List.mem_cons_of_mem step member)

/-- The steps of every path collapse to a course. -/
theorem exists_collapse (path : Path) :
    ∃ course : Course, collapse path.components = course.components := by
  have begun : ∃ course : Course,
      path.split.1.components.foldl push [] = course.components.reverse := by
    cases path.split.1 with
    | root => exact ⟨ofOrigin .root, rfl⟩
    | current => exact ⟨ofOrigin (.above 0), rfl⟩
    | plain => exact ⟨ofOrigin (.above 0), rfl⟩
  obtain ⟨course, begins⟩ := begun
  obtain ⟨final, ends⟩ := course.exists_foldl_push fun _ => isPlain_of_mem_stepsOf
  exact ⟨final, by rw [components_eq, collapse, List.foldl_append, begins, ends,
    List.reverse_reverse]⟩

theorem exists_normalize (path : Path) : ∃ course : Course, path.normalize = course.path := by
  obtain ⟨course, collapsed⟩ := exists_collapse path
  exact ⟨course, by rw [Path.normalize, collapsed, ofComponents_components]⟩

theorem foldl_push_names (names : List Letters) (stack : List Component) :
    (steps names).foldl push stack = (steps names).reverse ++ stack := by
  induction names generalizing stack with
  | nil => rfl
  | cons name rest ih =>
      have later := ih (.name name :: stack)
      simpa [steps, push] using later

theorem foldl_push_parents (levels : Nat) :
    (List.replicate levels Component.parent).foldl push [] =
      List.replicate levels Component.parent := by
  induction levels with
  | zero => rfl
  | succ more ih =>
      rw [List.replicate_succ', List.foldl_append, ih, ← List.replicate_succ']
      exact push_parents more

/-- Nothing collapses in a course. -/
theorem foldl_push_components (course : Course) :
    course.components.foldl push [] = course.components.reverse := by
  rw [components, List.foldl_append, foldl_push_names, List.reverse_append]
  cases course.origin with
  | root => rfl
  | above levels => simp [Origin.components, foldl_push_parents]

theorem normalize_path (course : Course) : course.path.normalize = course.path := by
  rw [Path.normalize, components_path, collapse, foldl_push_components, List.reverse_reverse,
    ofComponents_components]

end Course

namespace Path

open Component

/-- Whether a path keeps its spelling when it is normalised. -/
def IsNormal (path : Path) : Prop :=
  path.normalize = path

theorem IsNormal.exists_course {path : Path} (normal : path.IsNormal) :
    ∃ course : Course, path = course.path := by
  obtain ⟨course, spelled⟩ := Course.exists_normalize path
  exact ⟨course, by rw [← spelled, normal]⟩

theorem isNormal_path (course : Course) : course.path.IsNormal :=
  course.normalize_path

theorem isNormal_normalize (path : Path) : path.normalize.IsNormal := by
  obtain ⟨course, spelled⟩ := Course.exists_normalize path
  rw [spelled]
  exact isNormal_path course

/-! ## One more piece -/

theorem join_of_not_mem (directory : Path) {piece : Letters} (noSlash : .char '/' ∉ piece) :
    directory.join ⟨piece⟩ =
      if directory.letters = [] ∨ directory.letters.getLast? = some (.char '/') then
        ⟨directory.letters ++ piece⟩
      else ⟨directory.letters ++ .char '/' :: piece⟩ := by
  rw [join, if_neg (by simp [isAbsolute_of_not_mem noSlash])]

/-- A piece without slashes stands behind a slash, unless it is the first one. -/
theorem join_joinWith {start : Letters} (starts : start = [] ∨ start = [.char '/'])
    {pieces : List Letters} (proper : ∀ piece ∈ pieces, piece ≠ [] ∧ .char '/' ∉ piece)
    {last : Letters} (noSlash : .char '/' ∉ last) :
    (⟨start ++ Text.joinWith (.char '/') pieces⟩ : Path).join ⟨last⟩ =
      ⟨start ++ Text.joinWith (.char '/') (pieces ++ [last])⟩ := by
  rw [join_of_not_mem _ noSlash]
  rcases List.eq_nil_or_concat' pieces with rfl | ⟨before, piece, rfl⟩
  · have ends : start ++ Text.joinWith (Letter.char '/') [] = [] ∨
        (start ++ Text.joinWith (Letter.char '/') []).getLast? = some (Letter.char '/') := by
      rcases starts with rfl | rfl
      · exact Or.inl rfl
      · exact Or.inr rfl
    rw [if_pos ends]
    simp [Text.joinWith]
  · obtain ⟨nonempty, unmarked⟩ := proper piece (by simp)
    obtain ⟨front, joined⟩ := Text.exists_joinWith_concat (.char '/') before piece
    have behindName : ¬ (start ++ Text.joinWith (.char '/') (before ++ [piece]) = [] ∨
        (start ++ Text.joinWith (.char '/') (before ++ [piece])).getLast? = some (.char '/')) := by
      rw [joined, ← List.append_assoc, not_or]
      exact ⟨by simp [nonempty], Text.getLast?_append_ne nonempty unmarked _⟩
    have more : before ++ [piece] ≠ [] := by simp
    rw [if_neg behindName, Text.joinWith_concat more, List.append_assoc]

theorem join_pieces (course : Course) {piece : Letters} (noSlash : .char '/' ∉ piece) :
    course.path.join ⟨piece⟩ =
      ⟨course.origin.start ++ Text.joinWith (.char '/') (course.pieces ++ [piece])⟩ := by
  apply join_joinWith _ _ noSlash
  · cases course.origin with
    | root => exact Or.inr rfl
    | above levels => exact Or.inl rfl
  · intro other member
    rcases List.mem_append.1 member with climbs | descends
    · cases origin : course.origin with
      | root => simp [origin, Origin.climb] at climbs
      | above levels =>
          rw [origin] at climbs
          rw [List.eq_of_mem_replicate climbs]
          decide
    · have isName := course.areNames other descends
      exact ⟨isName.nonempty, isName.noSlash⟩

theorem path_below (course : Course) {name : Letters} (isName : IsName name) :
    (course.below name isName).path = course.path.join ⟨name⟩ := by
  rw [join_pieces course isName.noSlash, Course.path]
  simp [Course.pieces, Course.below]

/-- A name below a normal path makes one more normal path. -/
theorem IsNormal.join_name {directory : Path} (normal : directory.IsNormal) {name : Letters}
    (isName : IsName name) : (directory.join ⟨name⟩).IsNormal := by
  obtain ⟨course, rfl⟩ := normal.exists_course
  rw [← path_below course isName]
  exact isNormal_path _

/-- Every normal path is a normal directory with a last piece, be it a name or not. -/
theorem IsNormal.exists_join {path : Path} (normal : path.IsNormal) :
    ∃ (directory : Path) (piece : Letters),
      directory.IsNormal ∧ .char '/' ∉ piece ∧ path = directory.join ⟨piece⟩ := by
  obtain ⟨course, rfl⟩ := normal.exists_course
  rcases course.eq_ofOrigin_or_below with ⟨origin, rfl⟩ | ⟨before, last, isName, rfl⟩
  · have itself (origin : Origin) (short : origin.climb = []) :
        (Course.ofOrigin origin).path = (Course.ofOrigin origin).path.join ⟨[]⟩ := by
      rw [join_pieces _ List.not_mem_nil]
      simp [Course.path, Course.pieces, Course.ofOrigin, short, Text.joinWith]
    cases origin with
    | root => exact ⟨_, [], isNormal_path _, List.not_mem_nil, itself .root rfl⟩
    | above levels =>
        cases levels with
        | zero => exact ⟨_, [], isNormal_path _, List.not_mem_nil, itself (.above 0) rfl⟩
        | succ more =>
            have noSlash : Letter.char '/' ∉ [Letter.char '.', Letter.char '.'] := by decide
            refine ⟨_, [.char '.', .char '.'], isNormal_path (.ofOrigin (.above more)), noSlash, ?_⟩
            rw [join_pieces _ noSlash]
            simp [Course.path, Course.pieces, Course.ofOrigin, Origin.climb, Origin.start,
              List.replicate_succ']
  · exact ⟨before.path, last, isNormal_path before, isName.noSlash, path_below before isName⟩

/-! ## Endings -/

/-- Whatever is written behind a path is written behind its last piece. -/
theorem letters_join_append (directory : Path) {piece ending : Letters}
    (noSlash : .char '/' ∉ piece) (endingNoSlash : .char '/' ∉ ending) :
    (⟨(directory.join ⟨piece⟩).letters ++ ending⟩ : Path) = directory.join ⟨piece ++ ending⟩ := by
  have bothNoSlash : .char '/' ∉ piece ++ ending := by simp [noSlash, endingNoSlash]
  rw [join_of_not_mem directory noSlash, join_of_not_mem directory bothNoSlash]
  split <;> simp

theorem suffix_letters_join (directory : Path) {piece : Letters} (noSlash : .char '/' ∉ piece) :
    piece <:+ (directory.join ⟨piece⟩).letters := by
  rw [join_of_not_mem directory noSlash]
  split
  · exact List.suffix_append _ _
  · exact ⟨directory.letters ++ [.char '/'], by simp⟩

/-- An ending without slashes does not reach over the last piece. -/
theorem suffix_letters_join_iff (directory : Path) {piece ending : Letters}
    (noSlash : .char '/' ∉ piece) (endingNoSlash : .char '/' ∉ ending) :
    ending <:+ (directory.join ⟨piece⟩).letters ↔ ending <:+ piece := by
  rw [join_of_not_mem directory noSlash]
  split
  · rename_i ends
    rcases ends with blank | slash
    · simp [blank]
    · obtain ⟨front, shape⟩ := List.getLast?_eq_some_iff.1 slash
      rw [shape, List.append_assoc, List.singleton_append]
      exact Text.suffix_append_mark_iff endingNoSlash front piece
  · exact Text.suffix_append_mark_iff endingNoSlash directory.letters piece

/-! ## File names -/

/-- A name behind a path leaves the beginning of the path as it is. -/
theorem anchor_join (base : Path) {name : Letters} (isName : IsName name) :
    (base.join ⟨name⟩).split.1 = base.split.1 := by
  obtain ⟨letters⟩ := base
  rw [join_of_not_mem _ isName.noSlash]
  rcases letters with _ | ⟨first, _ | ⟨second, rest⟩⟩
  · have cut := Text.splitOn_of_not_mem isName.noSlash
    rw [if_pos (Or.inl rfl)]
    exact Course.split_of_splitOn cut isName.nonempty isName.notCurrent
  · by_cases root : first = .char '/'
    · subst root
      rfl
    · by_cases dot : first = .char '.' <;> simp [split, root, dot]
  · by_cases root : first = .char '/'
    · subst root
      split <;> rfl
    · by_cases dot : first = .char '.'
      · by_cases slash : second = .char '/' <;> split <;> simp [Path.split, dot, slash]
      · split <;> simp [Path.split, root, dot]

theorem components_join_name (base : Path) {name : Letters} (isName : IsName name) :
    (base.join ⟨name⟩).components = base.components ++ [.name name] := by
  have plain : IsPlain (.name name) := isName
  have taken : stepsOf name = [.name name] := stepsOf_letters plain
  rw [components_eq, components_eq base, anchor_join base isName,
    stepsOf_join (isAbsolute_of_not_mem isName.noSlash), taken, List.append_assoc]

theorem fileName?_join (directory : Path) {name : Letters} (isName : IsName name) :
    (directory.join ⟨name⟩).fileName? = some name := by
  simp [fileName?, components_join_name directory isName]

/-- A normal path with a file name is this name below a normal directory. -/
theorem IsNormal.exists_directory {path : Path} (normal : path.IsNormal) {name : Letters}
    (named : path.fileName? = some name) :
    ∃ directory : Path, directory.IsNormal ∧ IsName name ∧ path = directory.join ⟨name⟩ := by
  obtain ⟨course, rfl⟩ := normal.exists_course
  rcases course.eq_ofOrigin_or_below with ⟨origin, rfl⟩ | ⟨before, last, isName, rfl⟩
  · rw [fileName?, Course.components_path] at named
    cases origin with
    | root => simp [Course.components, Course.ofOrigin, Origin.components, steps] at named
    | above levels =>
        cases levels <;> simp [Course.components, Course.ofOrigin, Origin.components, steps,
          List.replicate_succ'] at named
  · have spelled := path_below before isName
    rw [spelled, fileName?_join _ isName, Option.some.injEq] at named
    subst named
    exact ⟨before.path, isNormal_path before, isName, spelled⟩

end Path

end Relink
