import Relink.Proofs.Path.Relative

/-!
# Canonical paths

A path collapses to one spelling of the place that it names: the root with names behind it, or
some `..` with names behind them.  The spelling is canonical, since a path of this form stays as
it is, and what is joined to a path may as well be joined to its spelling.  A `.` behind a path,
or a name that a `..` takes back, does not change the place.
-/

namespace Relink

/-! ## The form of a normal path -/

theorem Course.current_not_mem_components (course : Course) :
    Component.current ∉ course.components := by
  intro member
  rcases List.mem_append.1 member with climbs | descends
  · cases origin : course.origin with
    | root => simp [origin, Origin.components] at climbs
    | above levels => simp [origin, Origin.components] at climbs
  · exact Path.isPlain_of_mem_steps course.areNames descends

namespace Path

open Component

theorem isAbsolute_normalize (path : Path) : path.normalize.isAbsolute = path.isAbsolute := by
  cases absolute : path.isAbsolute with
  | true => rw [normalize_eq_fromRoot absolute, isAbsolute_fromRoot]
  | false =>
      refine Bool.eq_false_iff.2 fun rooted => root_not_mem_collapse absolute ?_
      rw [← components_normalize, components_of_isAbsolute rooted]
      exact List.mem_cons_self

theorem isNormal_iff {path : Path} :
    path.IsNormal ↔ ∃ course : Course, path = course.path := by
  refine ⟨IsNormal.exists_course, ?_⟩
  rintro ⟨course, rfl⟩
  exact isNormal_path course

theorem current_not_mem_normalize (path : Path) :
    Component.current ∉ path.normalize.components := by
  obtain ⟨course, spelled⟩ := Course.exists_normalize path
  rw [spelled, Course.components_path]
  exact course.current_not_mem_components

theorem exists_components_normalize (path : Path) :
    ∃ (levels : Nat) (names : List Letters), (∀ name ∈ names, IsName name) ∧
      path.normalize.components =
        (if path.isAbsolute then [.root] else List.replicate levels .parent) ++ steps names := by
  obtain ⟨names, areNames, collapsed⟩ := exists_names path
  refine ⟨path.climbs, names, areNames, ?_⟩
  rw [components_normalize, collapsed, origin]
  cases path.isAbsolute <;> rfl

/-! ## Detours -/

theorem normalize_join_current (path : Path) :
    (path.join ⟨[.char '.']⟩).normalize = path.normalize := by
  rw [normalize_eq_iff, collapse_join rfl, stepsOf_current, List.foldl_nil, List.reverse_reverse]

/-- A step behind a path is taken from where the path leads. -/
theorem collapse_join_letters {step : Component} (plain : step.IsPlain) (path : Path) :
    collapse (path.join ⟨step.letters⟩).components =
      (push (collapse path.components).reverse step).reverse := by
  have unrooted := isAbsolute_of_not_mem (not_slash_mem_letters plain)
  rw [collapse_join unrooted, stepsOf_letters plain, List.foldl_cons, List.foldl_nil]

theorem normalize_join_name_parent {name : Letters} (isName : IsName name) (path : Path) :
    ((path.join ⟨name⟩).join ⟨[.char '.', .char '.']⟩).normalize = path.normalize := by
  have descends : IsPlain (.name name) := isName
  have climbs : IsPlain .parent := trivial
  have taken : collapse (path.join ⟨name⟩).components =
      (push (collapse path.components).reverse (.name name)).reverse :=
    collapse_join_letters descends path
  have back := collapse_join_letters climbs (path.join ⟨name⟩)
  rw [normalize_eq_iff]
  calc
    collapse ((path.join ⟨name⟩).join ⟨[.char '.', .char '.']⟩).components =
        (push (collapse (path.join ⟨name⟩).components).reverse .parent).reverse := back
    _ = (push (push (collapse path.components).reverse (.name name)) .parent).reverse := by
      rw [taken, List.reverse_reverse]
    _ = collapse path.components := List.reverse_reverse _

/-- Normalising gives each place one spelling.  It has no `.`, begins at the root exactly if the
path does, and is made of names behind the root, or behind some `..` otherwise.  The paths of this
form are those that stay as they are.  Joining a path does not ask how the base is spelled, and
neither a `.` behind the path nor a name that is taken back makes another place of it. -/
theorem normalize_canonical (path : Path) :
    Component.current ∉ path.normalize.components ∧
      path.normalize.isAbsolute = path.isAbsolute ∧
      (∃ (levels : Nat) (names : List Letters), (∀ name ∈ names, IsName name) ∧
        path.normalize.components =
          (if path.isAbsolute then [.root] else List.replicate levels .parent) ++ steps names) ∧
      path.normalize.normalize = path.normalize ∧
      (path.normalize = path ↔ ∃ course : Course, path = course.path) ∧
      (∀ target : Path, (path.join target).normalize = (path.normalize.join target).normalize) ∧
      (path.join ⟨[.char '.']⟩).normalize = path.normalize ∧
      ∀ name, IsName name →
        ((path.join ⟨name⟩).join ⟨[.char '.', .char '.']⟩).normalize = path.normalize := by
  have again : path.normalize.normalize = path.normalize := isNormal_normalize path
  refine ⟨current_not_mem_normalize path, isAbsolute_normalize path,
    exists_components_normalize path, again, isNormal_iff, ?joins, normalize_join_current path,
    fun name isName => normalize_join_name_parent isName path⟩
  case joins =>
    intro target
    exact normalize_join_congr again.symm target

/-- Above the place that it is looked at from, a path keeps its `..`. -/
theorem normalize_canonical_above :
    IsName "b".toList ∧
      (((ofString "a/.././../x//").join (ofString "b")).join (ofString "..")).normalize =
        ofString "../x" := by
  have isName : IsName "b".toList := by decide
  obtain ⟨-, -, -, -, -, -, -, takenBack⟩ := normalize_canonical (ofString "a/.././../x//")
  refine ⟨isName, (takenBack "b".toList isName).trans ?_⟩
  decide

end Path

end Relink
