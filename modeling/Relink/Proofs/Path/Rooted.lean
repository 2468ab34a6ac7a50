import Mathlib.Data.List.Infix
import Relink.Proofs.Path.Directory

/-!
# Normal paths from the root

A path that begins at the root leads through names alone once it is normalised: a `..`
takes back the last name, and is lost where there is none.  So such a path is as good as
its list of names, and parents, joined paths and relative paths are read off the lists.
-/

namespace Relink

namespace Path

open Component

/-- The names from the root after one more step. -/
def follow (names : List Letters) : Component → List Letters
  | .name letters => names ++ [letters]
  | .parent => names.dropLast
  | _ => names

/-- The names that lead from the root to a path that begins there. -/
def names (path : Path) : List Letters :=
  (stepsOf path.letters).foldl follow []

/-- The path from the root through the given names. -/
def fromRoot (names : List Letters) : Path :=
  ⟨.char '/' :: Text.joinWith (.char '/') names⟩

theorem steps_injective {first second : List Letters} (same : steps first = steps second) :
    first = second := by
  rw [← map_letters_steps first, same, map_letters_steps]

/-! ## Following steps -/

theorem push_of_isPlain (names : List Letters) {step : Component} (plain : step.IsPlain) :
    push ((steps names).reverse ++ [.root]) step =
      (steps (follow names step)).reverse ++ [.root] := by
  cases step with
  | root => exact plain.elim
  | current => exact plain.elim
  | name letters => simp [push, follow, steps]
  | parent =>
      rcases List.eq_nil_or_concat names with rfl | ⟨before, last, rfl⟩
      · rfl
      · simp [push, follow, steps]

theorem foldl_push_of_isPlain (names : List Letters) {taken : List Component}
    (plain : ∀ step ∈ taken, step.IsPlain) :
    taken.foldl push ((steps names).reverse ++ [.root]) =
      (steps (taken.foldl follow names)).reverse ++ [.root] := by
  induction taken generalizing names with
  | nil => rfl
  | cons step rest ih =>
      rw [List.foldl_cons, push_of_isPlain names (plain step (by simp)),
        ih _ fun other member => plain other (by simp [member])]
      rfl

theorem isName_of_mem_foldl_follow {names : List Letters} (areNames : ∀ name ∈ names, IsName name)
    {taken : List Component} (plain : ∀ step ∈ taken, step.IsPlain) :
    ∀ name ∈ taken.foldl follow names, IsName name := by
  induction taken generalizing names with
  | nil => exact areNames
  | cons step rest ih =>
      apply ih _ fun other member => plain other (by simp [member])
      intro name member
      have stepPlain : step.IsPlain := plain step (by simp)
      cases step with
      | root => exact stepPlain.elim
      | current => exact stepPlain.elim
      | parent => exact areNames name (List.dropLast_subset names member)
      | name letters =>
          rcases List.mem_append.1 member with earlier | latest
          · exact areNames name earlier
          · obtain rfl := List.mem_singleton.1 latest
            exact stepPlain

theorem foldl_follow_steps (names more : List Letters) :
    (steps more).foldl follow names = names ++ more := by
  induction more generalizing names with
  | nil => simp [steps]
  | cons name rest ih =>
      have later := ih (names ++ [name])
      simpa [steps, follow] using later

theorem isName_of_mem_names {path : Path} {name : Letters} (member : name ∈ path.names) :
    IsName name :=
  isName_of_mem_foldl_follow (by simp) (fun _ => isPlain_of_mem_stepsOf) name member

theorem collapse_components {path : Path} (absolute : path.isAbsolute = true) :
    collapse path.components = .root :: steps path.names := by
  rw [components_of_isAbsolute absolute, collapse, List.foldl_cons]
  have plain : ∀ step ∈ stepsOf path.letters, step.IsPlain := fun _ => isPlain_of_mem_stepsOf
  have begun : push [] .root = (steps []).reverse ++ [.root] := rfl
  rw [begun, foldl_push_of_isPlain [] plain]
  simp [names]

theorem normalize_eq_fromRoot {path : Path} (absolute : path.isAbsolute = true) :
    path.normalize = fromRoot path.names := by
  rw [normalize, collapse_components absolute, ofComponents, map_letters_steps]
  rfl

/-! ## Paths through names -/

@[simp] theorem isAbsolute_fromRoot (names : List Letters) :
    (fromRoot names).isAbsolute = true := rfl

/-- The last name of a path from the root stands behind its last slash. -/
theorem letters_fromRoot_concat (before : List Letters) :
    ∃ front, ∀ last, (fromRoot (before ++ [last])).letters = front ++ .char '/' :: last := by
  by_cases nonempty : before = []
  · subst nonempty
    exact ⟨[], fun last => rfl⟩
  · exact ⟨(fromRoot before).letters, fun last => by
      simp [fromRoot, Text.joinWith_concat nonempty]⟩

/-- A path that begins at the root and is normal. -/
structure IsRooted (path : Path) : Prop where
  absolute : path.isAbsolute = true
  normal : path.normalize = path

theorem IsRooted.eq_fromRoot {path : Path} (rooted : path.IsRooted) :
    path = fromRoot path.names := by
  rw [← normalize_eq_fromRoot rooted.absolute, rooted.normal]

theorem isRooted_fromRoot {names : List Letters} (areNames : ∀ name ∈ names, IsName name) :
    (fromRoot names).IsRooted :=
  ⟨isAbsolute_fromRoot names, isNormal_path ⟨.root, names, areNames⟩⟩

theorem isRooted_normalize {path : Path} (absolute : path.isAbsolute = true) :
    path.normalize.IsRooted := by
  rw [normalize_eq_fromRoot absolute]
  exact isRooted_fromRoot fun _ => isName_of_mem_names

theorem IsRooted.ext {first second : Path} (firstRooted : first.IsRooted)
    (secondRooted : second.IsRooted) (same : first.names = second.names) : first = second := by
  rw [firstRooted.eq_fromRoot, secondRooted.eq_fromRoot, same]

theorem names_join {target : Path} (unrooted : target.isAbsolute = false) (base : Path) :
    (base.join target).names = (stepsOf target.letters).foldl follow base.names := by
  rw [names, stepsOf_join unrooted, List.foldl_append]
  rfl

theorem isRooted_join_name {directory : Path} (rooted : directory.IsRooted) {name : Letters}
    (isName : IsName name) : (directory.join ⟨name⟩).IsRooted :=
  ⟨isAbsolute_join rooted.absolute ⟨name⟩, IsNormal.join_name rooted.normal isName⟩

theorem names_join_name (directory : Path) {name : Letters} (isName : IsName name) :
    (directory.join ⟨name⟩).names = directory.names ++ [name] := by
  have plain : IsPlain (.name name) := isName
  have taken : stepsOf name = [.name name] := stepsOf_letters plain
  rw [names_join (isAbsolute_of_not_mem isName.noSlash), taken]
  rfl

theorem names_fromRoot {names : List Letters} (areNames : ∀ name ∈ names, IsName name) :
    (fromRoot names).names = names := by
  rw [Path.names, fromRoot, stepsOf_slash_joinWith areNames, foldl_follow_steps, List.nil_append]

theorem names_normalize {path : Path} (absolute : path.isAbsolute = true) :
    path.normalize.names = path.names := by
  rw [normalize_eq_fromRoot absolute, names_fromRoot fun _ => isName_of_mem_names]

/-- A normal path from the root is its last name below a directory. -/
theorem IsRooted.eq_join {path : Path} (rooted : path.IsRooted) {before : List Letters}
    {last : Letters} (shape : path.names = before ++ [last]) :
    IsName last ∧ path = (fromRoot before).join ⟨last⟩ := by
  have areNames : ∀ name ∈ before ++ [last], IsName name := fun name member =>
    isName_of_mem_names (shape ▸ member)
  have isName : IsName last := areNames last (by simp)
  have beforeNames : ∀ name ∈ before, IsName name := fun name member =>
    areNames name (List.mem_append_left [last] member)
  refine ⟨isName, rooted.ext (isRooted_join_name (isRooted_fromRoot beforeNames) isName) ?_⟩
  rw [shape, names_join_name _ isName, names_fromRoot beforeNames]

/-! ## Parents -/

theorem isBlankSegment_of_isName {name : Letters} (isName : IsName name) :
    isBlankSegment name = false := by
  have plain : IsPlain (.name name) := isName
  have read : ofSegment? name = some (.name name) := ofSegment?_letters plain
  simp [isBlankSegment, read]

theorem trimBlank_of_isName {names : List Letters} (areNames : ∀ name ∈ names, IsName name) :
    trimBlank names = names := by
  rcases List.eq_nil_or_concat names with rfl | ⟨before, last, rfl⟩
  · rfl
  · simp [trimBlank, isBlankSegment_of_isName (areNames last (by simp))]

theorem splitLast?_concat (before : List Letters) {name : Letters} (isName : IsName name) :
    splitLast? (before ++ [name]) = some (before, name) := by
  simp [splitLast?, isBlankSegment_of_isName isName]

theorem split_fromRoot {names : List Letters} (areNames : ∀ name ∈ names, IsName name)
    (some : names ≠ []) : (fromRoot names).split = (.root, names) := by
  have cut := Text.splitOn_joinWith some fun name member => (areNames name member).noSlash
  simp [split, fromRoot, cut]

theorem parent?_fromRoot_concat {before : List Letters} {last : Letters}
    (areNames : ∀ name ∈ before ++ [last], IsName name) :
    (fromRoot (before ++ [last])).parent? = some (fromRoot before) := by
  have beforeNames : ∀ name ∈ before, IsName name := fun name member =>
    areNames name (by simp [member])
  have cut := splitLast?_concat before (areNames last (by simp))
  unfold parent?
  rw [split_fromRoot areNames (by simp)]
  simp [cut, trimBlank_of_isName beforeNames, glue, fromRoot]

theorem parent?_fromRoot_nil : (fromRoot []).parent? = none := rfl

/-- The ancestors of a normal path are the places that its first names lead to. -/
theorem ancestors_fromRoot {names : List Letters} (areNames : ∀ name ∈ names, IsName name) :
    (fromRoot names).ancestors = (names.inits.map fromRoot).reverse := by
  induction names using List.reverseRecOn with
  | nil =>
      rw [ancestors]
      simp [parent?_fromRoot_nil]
  | append_singleton before last ih =>
      rw [ancestors_of_parent? (parent?_fromRoot_concat areNames),
        ih fun name member => areNames name (List.mem_append_left [last] member)]
      simp [List.inits_append]

/-- Every path from the root but the root itself lies in a directory below the root. -/
theorem isAbsolute_directory {path : Path} (absolute : path.isAbsolute = true)
    (notRoot : path.components ≠ [.root]) : path.directory.isAbsolute = true := by
  obtain ⟨rest, rfl⟩ := exists_rest_of_isAbsolute absolute
  have cut : split ⟨.char '/' :: rest⟩ = (.root, Text.splitOn (.char '/') rest) := rfl
  cases found : splitLast? (Text.splitOn (.char '/') rest) with
  | none =>
      have empty := filterMap_ofSegment?_of_splitLast? found
      simp [components, cut, Anchor.components, empty] at notRoot
  | some pair => simp [directory, parent?, cut, found, glue, isAbsolute]

/-! ## Relative paths -/

theorem dropCommon_steps (first second : List Letters) :
    ∃ shared climbed descended,
      first = shared ++ climbed ∧ second = shared ++ descended ∧
        dropCommon (steps first) (steps second) = (steps climbed, steps descended) := by
  induction first generalizing second with
  | nil => exact ⟨[], [], second, rfl, rfl, by simp [steps, dropCommon]⟩
  | cons name rest ih =>
      cases second with
      | nil => exact ⟨[], name :: rest, [], rfl, rfl, by simp [steps, dropCommon]⟩
      | cons other others =>
          by_cases same : name = other
          · subst same
            obtain ⟨shared, climbed, descended, firstCut, secondCut, left⟩ := ih others
            refine ⟨name :: shared, climbed, descended, by simp [firstCut],
              by simp [secondCut], ?_⟩
            simpa [steps, dropCommon] using left
          · exact ⟨[], name :: rest, other :: others, rfl, rfl, by
              simp [steps, dropCommon, same]⟩

/-- The relative path climbs over the names that only the origin has and descends by those
that only the target has. -/
theorem relative_eq {origin target : Path} (originAbsolute : origin.isAbsolute = true)
    (targetAbsolute : target.isAbsolute = true) :
    ∃ shared climbed descended,
      origin.names = shared ++ climbed ∧ target.names = shared ++ descended ∧
        origin.relative target =
          Text.joinWith '/'
            (List.replicate climbed.length ['.', '.'] ++ descended.map Letters.shown) := by
  obtain ⟨shared, climbed, descended, originCut, targetCut, left⟩ :=
    dropCommon_steps origin.names target.names
  refine ⟨shared, climbed, descended, originCut, targetCut, ?_⟩
  have dropped : dropCommon (.root :: steps origin.names) (.root :: steps target.names) =
      (steps climbed, steps descended) := by
    rw [dropCommon, if_pos rfl, left]
  rw [relative, collapse_components originAbsolute, collapse_components targetAbsolute, dropped]
  simp only [map_text_steps]
  rw [List.map_const', steps, List.length_map]
  rfl

end Path

end Relink
