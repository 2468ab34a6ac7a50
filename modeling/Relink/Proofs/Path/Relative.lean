import Relink.Proofs.Path.Joined
import Relink.Proofs.Specifier

/-!
# Ways between paths

The relative path from a directory to a path goes back over the names that only the directory
has, further up if the path lies higher, and down through the names that only the path has.
Followed from the directory it ends at the path, unless the directory itself climbs higher by
name than the path does.
-/

namespace Relink

namespace Path

open Component

/-! ## Origins -/

/-- How many levels a path climbs before its first name. -/
def climbs (path : Path) : Nat :=
  (path.normalize.components.takeWhile (· = .parent)).length

/-- Where the names of a path begin. -/
def origin (path : Path) : Origin :=
  if path.isAbsolute then .root else .above path.climbs

theorem mem_push {stack : List Component} {taken step : Component}
    (member : step ∈ push stack taken) : step ∈ stack ∨ step = taken := by
  unfold push at member
  split at member
  · exact Or.inl member
  · split at member
    · exact Or.inl (List.mem_cons_of_mem _ member)
    · exact Or.inl member
    · exact (List.mem_cons.1 member).symm
  · exact (List.mem_cons.1 member).symm

theorem mem_foldl_push {stack taken : List Component} {step : Component}
    (member : step ∈ taken.foldl push stack) : step ∈ stack ∨ step ∈ taken := by
  induction taken generalizing stack with
  | nil => exact Or.inl member
  | cons first rest ih =>
      rcases ih member with pushed | later
      · rcases mem_push pushed with earlier | rfl
        · exact Or.inl earlier
        · exact Or.inr List.mem_cons_self
      · exact Or.inr (List.mem_cons_of_mem first later)

theorem root_not_mem_collapse {path : Path} (relative : path.isAbsolute = false) :
    Component.root ∉ collapse path.components := by
  rw [collapse_eq, ground, relative, List.mem_reverse]
  intro member
  rcases mem_foldl_push member with begun | taken
  · cases begun
  · exact isPlain_of_mem_stepsOf taken

theorem climbs_eq {path : Path} {levels : Nat} {names : List Letters}
    (collapsed : collapse path.components = List.replicate levels .parent ++ steps names) :
    path.climbs = levels := by
  have climbed : ∀ step ∈ List.replicate levels Component.parent,
      decide (step = .parent) = true := by
    intro step member
    simp [List.eq_of_mem_replicate member]
  have descended : (steps names).takeWhile (· = .parent) = [] := by
    cases names <;> simp [steps]
  rw [climbs, components_normalize, collapsed, List.takeWhile_append_of_pos climbed, descended]
  simp

/-- Every path collapses to names behind its origin. -/
theorem exists_names (path : Path) :
    ∃ names : List Letters, (∀ name ∈ names, IsName name) ∧
      collapse path.components = path.origin.components ++ steps names := by
  cases absolute : path.isAbsolute with
  | true =>
      refine ⟨path.names, fun _ => isName_of_mem_names, ?_⟩
      rw [collapse_components absolute, origin, absolute]
      rfl
  | false =>
      obtain ⟨⟨origin, names, areNames⟩, collapsed⟩ := Course.exists_collapse path
      cases origin with
      | root =>
          have notRoot := root_not_mem_collapse absolute
          rw [collapsed] at notRoot
          exact absurd List.mem_cons_self notRoot
      | above levels =>
          refine ⟨names, areNames, ?_⟩
          rw [Path.origin, absolute, climbs_eq collapsed]
          exact collapsed

theorem exists_names_of_relative {path : Path} (relative : path.isAbsolute = false) :
    ∃ names : List Letters, (∀ name ∈ names, IsName name) ∧
      collapse path.components = List.replicate path.climbs .parent ++ steps names := by
  simpa [origin, relative, Origin.components] using exists_names path

/-! ## Common steps -/

/-- Going back over names leads to where they begin. -/
theorem foldl_push_back (names : List Letters) (stack : List Component) :
    (List.replicate names.length Component.parent).foldl push ((steps names).reverse ++ stack) =
      stack := by
  induction names using List.reverseRecOn with
  | nil => rfl
  | append_singleton before last ih =>
      rw [List.length_append, List.length_singleton, List.replicate_succ, List.foldl_cons]
      simpa [steps, push] using ih

theorem dropCommon_append_left (shared first second : List Component) :
    dropCommon (shared ++ first) (shared ++ second) = dropCommon first second := by
  induction shared with
  | nil => rfl
  | cons step rest ih => rw [List.cons_append, List.cons_append, dropCommon, if_pos rfl, ih]

/-- No name is shared with a path that climbs further. -/
theorem dropCommon_steps_parent (names : List Letters) (rest : List Component) :
    dropCommon (steps names) (.parent :: rest) = (steps names, .parent :: rest) := by
  cases names <;> simp [steps, dropCommon]

/-! ## Ways -/

/-- Whether the way from a directory to a path can be told by name: both begin at the root, or
neither does and the directory climbs no further than the path. -/
def IsInReach (directory target : Path) : Prop :=
  directory.isAbsolute = true ∧ target.isAbsolute = true ∨
    directory.isAbsolute = false ∧ target.isAbsolute = false ∧ directory.climbs ≤ target.climbs

instance (directory target : Path) : Decidable (IsInReach directory target) :=
  inferInstanceAs (Decidable (_ ∨ _))

/-- Whether a text can tell the way down from a directory to a path: the steps of the path that
the directory does not share are shown as they are. -/
def IsTold (directory target : Path) : Prop :=
  ∀ step ∈ (dropCommon (collapse directory.components) (collapse target.components)).2,
    Letters.ofText step.text = step.letters

instance (directory target : Path) : Decidable (IsTold directory target) :=
  inferInstanceAs (Decidable (∀ step ∈ _, _ = _))

/-- The way from a directory to a path: over the names that the directory has behind the steps
it shares with the path, up by some levels, and down through the last names of the path. -/
structure Way (directory target : Path) (shared : List Component) (climbed : List Letters)
    (levels : Nat) (names : List Letters) : Prop where
  areNames : ∀ name ∈ names, IsName name
  begins : collapse directory.components = shared ++ steps climbed
  ends : collapse target.components =
    shared ++ (List.replicate levels .parent ++ steps names)
  left : dropCommon (collapse directory.components) (collapse target.components) =
    (steps climbed, List.replicate levels .parent ++ steps names)
  higher : (List.replicate levels .parent).foldl push shared.reverse =
    List.replicate levels .parent ++ shared.reverse

theorem exists_way_of_origin_eq {directory target : Path}
    (same : directory.origin = target.origin) :
    ∃ shared climbed names, Way directory target shared climbed 0 names := by
  obtain ⟨first, -, begins⟩ := exists_names directory
  obtain ⟨second, areNames, ends⟩ := exists_names target
  obtain ⟨shared, climbed, descended, rfl, rfl, left⟩ := dropCommon_steps first second
  refine ⟨target.origin.components ++ steps shared, climbed, descended, ?_, ?_, ?_, ?_, ?_⟩
  · exact fun name member => areNames name (List.mem_append_right shared member)
  · rw [begins, same, List.append_assoc]
    simp [steps]
  · rw [ends, List.append_assoc]
    simp [steps]
  · rw [begins, ends, same, dropCommon_append_left, left]
    rfl
  · rfl

theorem exists_way_of_climbs_lt {directory target : Path}
    (directoryRelative : directory.isAbsolute = false)
    (targetRelative : target.isAbsolute = false) (lower : directory.climbs < target.climbs) :
    ∃ shared climbed levels names, Way directory target shared climbed levels names := by
  obtain ⟨first, -, begins⟩ := exists_names_of_relative directoryRelative
  obtain ⟨second, areNames, ends⟩ := exists_names_of_relative targetRelative
  obtain ⟨more, further⟩ : ∃ more, target.climbs = directory.climbs + (more + 1) :=
    ⟨target.climbs - directory.climbs - 1, by omega⟩
  rw [further, List.replicate_add, List.append_assoc] at ends
  -- Only the levels are shared: behind them the directory descends and the path climbs on.
  refine ⟨List.replicate directory.climbs .parent, first, more + 1, second, areNames, begins,
    ends, ?_, ?_⟩
  · rw [begins, ends, dropCommon_append_left, List.replicate_succ, List.cons_append,
      dropCommon_steps_parent]
  · have climbs := Course.foldl_push_parents (directory.climbs + (more + 1))
    rw [List.replicate_add, List.foldl_append, Course.foldl_push_parents] at climbs
    rw [List.reverse_replicate, climbs, ← List.replicate_add, ← List.replicate_add,
      Nat.add_comm]

theorem IsInReach.exists_way {directory target : Path} (inReach : IsInReach directory target) :
    ∃ shared climbed levels names, Way directory target shared climbed levels names := by
  by_cases same : directory.origin = target.origin
  · -- From one origin the way stays below it.
    obtain ⟨shared, climbed, names, way⟩ := exists_way_of_origin_eq same
    exact ⟨shared, climbed, 0, names, way⟩
  · rcases inReach with ⟨rooted, alsoRooted⟩ | ⟨relative, alsoRelative, lower⟩
    · simp [origin, rooted, alsoRooted] at same
    · apply exists_way_of_climbs_lt relative alsoRelative
      simp only [origin, relative, alsoRelative, Bool.false_eq_true, if_false,
        Origin.above.injEq] at same
      omega

section Way

variable {directory target : Path} {shared : List Component} {climbed names : List Letters}
  {levels : Nat} (way : Way directory target shared climbed levels names)

include way

theorem Way.relative_eq :
    directory.relative target = Text.joinWith '/'
      (List.replicate (climbed.length + levels) ['.', '.'] ++ names.map Letters.shown) := by
  rw [relative, way.left]
  simp only [List.map_append, map_text_steps, List.map_replicate]
  rw [List.map_const', steps, List.length_map, ← List.append_assoc, List.replicate_add]
  rfl

theorem Way.areShown :
    ∀ name ∈ names.map Letters.shown, IsName (Letters.ofText name) := by
  intro name member
  obtain ⟨source, among, rfl⟩ := List.mem_map.1 member
  exact Letters.isName_ofText_shown (way.areNames source among)

/-- The steps of the relative path. -/
theorem Way.stepsOf_relative :
    stepsOf (Letters.ofText (directory.relative target)) =
      List.replicate climbed.length .parent ++
        (List.replicate levels .parent ++
          steps ((names.map Letters.shown).map Letters.ofText)) := by
  rw [way.relative_eq, Specifier.stepsOf_climb _ way.areShown, List.replicate_add,
    List.append_assoc]

/-- A relative path does not begin at the root. -/
theorem Way.isAbsolute_relative :
    (⟨directory.relative target⟩ : Path).isAbsolute = false := by
  have plain : ∀ step ∈ List.replicate (climbed.length + levels) Component.parent ++
      steps ((names.map Letters.shown).map Letters.ofText), step.IsPlain := by
    intro step member
    rcases List.mem_append.1 member with climbs | descends
    · rw [List.eq_of_mem_replicate climbs]
      trivial
    · exact isPlain_of_mem_steps (by simpa using way.areShown) descends
  have spelled : (⟨directory.relative target⟩ : Path) =
      ⟨Text.joinWith (.char '/') ((List.replicate (climbed.length + levels) Component.parent ++
        steps ((names.map Letters.shown).map Letters.ofText)).map Component.letters)⟩ := by
    rw [way.relative_eq, Letters.ofText_joinWith, List.map_append, List.map_append,
      map_letters_steps, List.map_replicate, List.map_replicate]
    rfl
  by_contra absolute
  rw [Bool.not_eq_false] at absolute
  -- The root would be the first of its steps, which are all plain.
  have root : Component.root ∈ (⟨directory.relative target⟩ : Path).components := by
    rw [components_of_isAbsolute absolute]
    exact List.mem_cons_self
  rw [spelled, Course.components_joinWith plain] at root
  exact plain _ root

theorem Way.relative_eq_nil_iff :
    directory.relative target = [] ↔ directory.normalize = target.normalize := by
  rw [normalize_eq_iff]
  constructor
  · intro empty
    have taken := way.stepsOf_relative
    rw [empty, Letters.ofText_nil, stepsOf_nil] at taken
    have none := List.append_eq_nil_iff.1 taken.symm
    have stays : climbed = [] := by simpa using none.1
    have ends : levels = 0 ∧ names = [] := by simpa [steps] using none.2
    rw [way.begins, way.ends, stays, ends.1, ends.2]
    rfl
  · intro same
    have dropped := dropCommon_append_left (collapse target.components) [] []
    rw [List.append_nil] at dropped
    rw [relative, same, dropped]
    rfl

theorem Way.isTold_iff :
    IsTold directory target ↔ (names.map Letters.shown).map Letters.ofText = names := by
  have climbs : ∀ step ∈ List.replicate levels Component.parent,
      Letters.ofText step.text = step.letters := by
    intro step member
    rw [List.eq_of_mem_replicate member]
    rfl
  have told : (names.map Letters.shown).map Letters.ofText = names.map id ↔
      ∀ name ∈ names, Letters.ofText name.shown = name := by
    rw [List.map_map]
    exact List.map_inj_left
  rw [List.map_id] at told
  rw [IsTold, way.left, List.forall_mem_append, and_iff_right climbs, told, steps,
    List.forall_mem_map]
  rfl

/-- Whoever steps from the directory as the relative path does ends at the path, if the way down
can be told. -/
theorem Way.normalize_join_iff {text : Text} (relative : (.ofText text : Path).isAbsolute = false)
    (taken : stepsOf (Letters.ofText text) =
      stepsOf (Letters.ofText (directory.relative target))) :
    (directory.join (.ofText text)).normalize = target.normalize ↔ IsTold directory target := by
  have reached : collapse (directory.join (.ofText text)).components =
      shared ++ (List.replicate levels .parent ++
        steps ((names.map Letters.shown).map Letters.ofText)) := by
    rw [collapse_join relative, taken, way.stepsOf_relative, way.begins, List.foldl_append,
      List.foldl_append, List.reverse_append, foldl_push_back, way.higher,
      Course.foldl_push_names]
    simp
  rw [normalize_eq_iff, reached, way.ends, List.append_cancel_left_eq,
    List.append_cancel_left_eq, way.isTold_iff]
  exact ⟨steps_injective, congrArg steps⟩

end Way

end Path

/-! ## Main result -/

namespace Specifier

open Relink.Path

theorem sourceEnding_suffix_makeRelative_iff (way : Text) :
    sourceEnding <:+ makeRelative way ↔ sourceEnding <:+ way := by
  unfold makeRelative
  split
  · rfl
  · exact Text.suffix_append_mark_iff (by decide) ['.'] way

/-- The specifier of a file is spelled with the source ending again where the relative path has
this ending, and is the relative path otherwise. -/
theorem exists_toFile_eq {importer target : Path}
    (ends : sourceEnding <:+ importer.directory.relative target) :
    ∃ stem, toFile importer target = stem ++ runtimeEnding ∧
      stem ++ sourceEnding = makeRelative (importer.directory.relative target) := by
  obtain ⟨stem, spelled⟩ := (sourceEnding_suffix_makeRelative_iff _).2 ends
  exact ⟨stem, by rw [toFile, ← spelled, toRuntime_append_source], spelled⟩

theorem toFile_eq_makeRelative {importer target : Path}
    (kept : ¬ sourceEnding <:+ importer.directory.relative target) :
    toFile importer target = makeRelative (importer.directory.relative target) :=
  toRuntime_of_not_suffix fun ends => kept ((sourceEnding_suffix_makeRelative_iff _).1 ends)

/-- The relative path, made to begin with `./` or `../`, leads to the path exactly if a text can
tell the way down. -/
theorem normalize_join_makeRelative_iff {directory target : Path}
    (inReach : IsInReach directory target) :
    (directory.join (.ofText (makeRelative (directory.relative target)))).normalize =
        target.normalize ↔ IsTold directory target := by
  obtain ⟨_, _, _, _, way⟩ := inReach.exists_way
  exact way.normalize_join_iff (isAbsolute_of_isRelative (isRelative_makeRelative _))
    (stepsOf_makeRelative _)

/-- The relative path from a directory to a path goes up and then down through names.  It is
empty exactly if both are one place, and leads from the directory to the path exactly if a text
can tell the way down.  The specifier of a file is relative.  It ends in the runtime ending where
the relative path ends in the source ending, and leads to the path as the relative path does once
the ending is exchanged back; otherwise it does so as it is. -/
theorem relative_inverts_join {directory target : Path} (inReach : IsInReach directory target) :
    (directory.relative target).head? ≠ some '/' ∧
      (∃ levels names, (∀ name ∈ names, IsName (Letters.ofText name)) ∧
        directory.relative target =
          Text.joinWith '/' (List.replicate levels ['.', '.'] ++ names)) ∧
      (directory.relative target = [] ↔ directory.normalize = target.normalize) ∧
      ((directory.join (.ofText (directory.relative target))).normalize = target.normalize ↔
        IsTold directory target) ∧
      ∀ importer : Path, importer.directory = directory →
        isRelative (toFile importer target) = true ∧
          (sourceEnding <:+ directory.relative target →
            ∃ stem, toFile importer target = stem ++ runtimeEnding ∧
              ((directory.join (.ofText (stem ++ sourceEnding))).normalize = target.normalize ↔
                IsTold directory target)) ∧
          (¬ sourceEnding <:+ directory.relative target →
            ((directory.join (.ofText (toFile importer target))).normalize = target.normalize ↔
              IsTold directory target)) := by
  obtain ⟨shared, climbed, levels, names, way⟩ := inReach.exists_way
  refine ⟨?begins, ⟨_, _, way.areShown, way.relative_eq⟩, way.relative_eq_nil_iff,
    way.normalize_join_iff way.isAbsolute_relative rfl, ?specifier⟩
  case begins =>
    intro slash
    obtain ⟨rest, spelled⟩ : ∃ rest, directory.relative target = '/' :: rest :=
      ⟨_, List.eq_cons_of_mem_head? slash⟩
    have unrooted := way.isAbsolute_relative
    rw [spelled] at unrooted
    cases unrooted
  case specifier =>
    rintro importer rfl
    have leads := normalize_join_makeRelative_iff inReach
    refine ⟨isRelative_toFile importer target, fun ends => ?_, fun kept => ?_⟩
    · obtain ⟨stem, spelled, back⟩ := exists_toFile_eq ends
      exact ⟨stem, spelled, by rw [back, leads]⟩
    · rw [toFile_eq_makeRelative kept, leads]

/-- A directory spelled with detours, and a source file with an odd name further up. -/
theorem relative_inverts_join_detour :
    IsInReach (.ofString "a/../../b/./c") (.ofString "../../d/..x.ts") ∧
      sourceEnding <:+ (Path.ofString "a/../../b/./c").relative (.ofString "../../d/..x.ts") ∧
      ∃ stem, toFile (.ofString "a/../../b/./c/app.ts") (.ofString "../../d/..x.ts") =
          stem ++ runtimeEnding ∧
        ((Path.ofString "a/../../b/./c").join (.ofText (stem ++ sourceEnding))).normalize =
          (Path.ofString "../../d/..x.ts").normalize := by
  have inReach : IsInReach (.ofString "a/../../b/./c") (.ofString "../../d/..x.ts") := by decide
  have lies : (Path.ofString "a/../../b/./c/app.ts").directory = .ofString "a/../../b/./c" := by
    decide
  have ends : sourceEnding <:+
      (Path.ofString "a/../../b/./c").relative (.ofString "../../d/..x.ts") := by decide
  have told : IsTold (.ofString "a/../../b/./c") (.ofString "../../d/..x.ts") := by decide
  obtain ⟨-, -, -, -, specifier⟩ := relative_inverts_join inReach
  obtain ⟨stem, spelled, back⟩ := (specifier _ lies).2.1 ends
  exact ⟨inReach, ends, stem, spelled, back.2 told⟩

/-- A name that no text can tell is not found again. -/
theorem relative_astray :
    IsInReach (.ofString "/a") ⟨[.char '/', .stray [0xff]]⟩ ∧
      (Path.ofString "/a").relative ⟨[.char '/', .stray [0xff]]⟩ = "../\ufffd".toList ∧
      ((Path.ofString "/a").join (.ofText
        ((Path.ofString "/a").relative ⟨[.char '/', .stray [0xff]]⟩))).normalize ≠
          (⟨[.char '/', .stray [0xff]]⟩ : Path).normalize := by
  decide

end Specifier

end Relink
