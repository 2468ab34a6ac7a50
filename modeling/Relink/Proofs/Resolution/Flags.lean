import Relink.Proofs.Resolution.Candidates

/-!
# Flags that admit more files

Letting specifiers stand for scripts, or for JSON files, puts such files between the others on
the list of candidates and takes none away.  So a specifier keeps the file it stands for, or
moves to one of the files that were admitted.
-/

namespace Relink

namespace Resolution

open Relink.Path

/-- A list of paths with others, which fit a description, put in between. -/
inductive Enriched (added : Path → Prop) : List Path → List Path → Prop
  | nil : Enriched added [] []
  | keep (path : Path) {fewer more : List Path} :
      Enriched added fewer more → Enriched added (path :: fewer) (path :: more)
  | add {path : Path} {fewer more : List Path} :
      added path → Enriched added fewer more → Enriched added fewer (path :: more)

namespace Enriched

variable {added : Path → Prop}

theorem refl (paths : List Path) : Enriched added paths paths := by
  induction paths with
  | nil => exact .nil
  | cons path rest ih => exact .keep path ih

theorem append {fewer more fewer' more' : List Path} (first : Enriched added fewer more)
    (second : Enriched added fewer' more') : Enriched added (fewer ++ fewer') (more ++ more') := by
  induction first with
  | nil => exact second
  | keep path _ ih => exact .keep path ih
  | add isAdded _ ih => exact .add isAdded ih

/-- Paths that all fit the description may be put behind a list. -/
theorem append_added (paths : List Path) {more : List Path} (areAdded : ∀ path ∈ more, added path) :
    Enriched added paths (paths ++ more) := by
  have behind : Enriched added [] more := by
    induction more with
    | nil => exact .nil
    | cons path rest ih =>
        exact .add (areAdded path List.mem_cons_self)
          (ih fun other member => areAdded other (List.mem_cons_of_mem path member))
  simpa using (refl paths).append behind

theorem flatMap {α : Type} {items : List α} {fewer more : α → List Path}
    (each : ∀ item, Enriched added (fewer item) (more item)) :
    Enriched added (items.flatMap fewer) (items.flatMap more) := by
  induction items with
  | nil => exact .nil
  | cons item rest ih => exact (each item).append ih

/-- The first path that holds stays, or one of the others comes before it. -/
theorem find?_cases {fewer more : List Path} (enriched : Enriched added fewer more)
    (holds : Path → Bool) :
    more.find? holds = fewer.find? holds ∨
      ∃ path, more.find? holds = some path ∧ added path := by
  induction enriched with
  | nil => exact Or.inl rfl
  | keep path _ ih =>
      cases here : holds path with
      | true => exact Or.inl (by rw [List.find?_cons_of_pos here, List.find?_cons_of_pos here])
      | false => simpa [here] using ih
  | @add path fewer more isAdded _ ih =>
      cases here : holds path with
      | true => exact Or.inr ⟨path, List.find?_cons_of_pos here, isAdded⟩
      | false => simpa [here] using ih

end Enriched

/-! ## Options that admit more -/

/-- Whether a path ends in one of the given extensions. -/
def EndsInOne (extensions : List Extension) (path : Path) : Prop :=
  ∃ extension ∈ extensions, extension.text <:+ path.text

/-- Options of which the second admit files with some more extensions, none of them that of
source text. -/
structure Widens (extensions : List Extension) (narrow wide : Options) : Prop where
  strategy : narrow.strategy = wide.strategy
  known : ∀ extension ∈ extensions, extension ≠ .unknown
  untyped : ∀ extension ∈ extensions, extension.isTypeScript = false
  spelled : ∀ place : Path, place.IsNormal →
    Enriched (EndsInOne extensions) (spelled narrow place) (spelled wide place)
  appended : ∀ place : Path,
    Enriched (EndsInOne extensions) (appended narrow place) (appended wide place)

section Widens

variable {extensions : List Extension} {narrow wide : Options}
  (widens : Widens extensions narrow wide)

include widens

theorem enriched_entryFiles {target : Path} (normal : target.IsNormal) :
    Enriched (EndsInOne extensions) (entryFiles narrow target) (entryFiles wide target) :=
  ((widens.spelled target normal).append (widens.appended target)).append (widens.appended _)

theorem enriched_directoryFiles (host : Host) (directory : Path) :
    Enriched (EndsInOne extensions) (directoryFiles host narrow directory)
      (directoryFiles host wide directory) :=
  (Enriched.flatMap fun _ => enriched_entryFiles widens (isNormal_normalize _)).append
    (widens.appended _)

theorem enriched_placeFiles (host : Host) (leniency : Leniency) (asDirectory : Bool)
    {place : Path} (normal : place.IsNormal) :
    Enriched (EndsInOne extensions) (placeFiles host narrow leniency asDirectory place)
      (placeFiles host wide leniency asDirectory place) := by
  unfold placeFiles
  apply Enriched.append
  · split
    · exact .nil
    · apply (widens.spelled place normal).append
      split
      · exact .nil
      · exact widens.appended place
  · split
    · exact enriched_directoryFiles widens host place
    · exact .nil

theorem enriched_candidates (host : Host) (importer : Path) (specifier : Text) :
    Enriched (EndsInOne extensions) (candidates host narrow importer specifier)
      (candidates host wide importer specifier) := by
  rw [candidates, candidates, widens.strategy]
  exact enriched_placeFiles widens host _ _ (isNormal_normalize _)

end Widens

/-! ## The two flags -/

theorem widens_allowJs (options : Options) :
    Widens [.js, .jsx, .mjs, .cjs] { options with allowJs := false }
      { options with allowJs := true } where
  strategy := rfl
  known := by decide
  untyped := by decide
  spelled place normal := by
    have ends := Extension.text_suffix_ofPath normal
    unfold spelled
    simp only
    split
    · -- The sources of a script stay in front, and the script itself is put behind them.
      rename_i script
      have itself : EndsInOne [.js, .jsx, .mjs, .cjs] place := by
        refine ⟨_, ?_, ends⟩
        revert script
        cases Extension.ofPath place <;> decide
      simpa using Enriched.append_added _ (by simpa using itself)
    · exact .refl _
  appended place := by
    have js : EndsInOne [.js, .jsx, .mjs, .cjs] (Extension.js.appendTo place) :=
      ⟨.js, by decide, Extension.text_suffix_appendTo _ _⟩
    have jsx : EndsInOne [.js, .jsx, .mjs, .cjs] (Extension.jsx.appendTo place) :=
      ⟨.jsx, by decide, Extension.text_suffix_appendTo _ _⟩
    simp only [appended, implied, List.map_append]
    apply (Enriched.refl _).append
    exact .add js (.add jsx .nil)

theorem widens_resolveJsonModule (options : Options) :
    Widens [.json] { options with resolveJsonModule := false }
      { options with resolveJsonModule := true } where
  strategy := rfl
  known := by decide
  untyped := by decide
  spelled place normal := by
    have ends := Extension.text_suffix_ofPath normal
    unfold spelled
    simp only
    split
    · exact .refl _
    · by_cases json : Extension.ofPath place = .json
      · have itself : EndsInOne [.json] place := ⟨.json, by decide, by rwa [json] at ends⟩
        simpa [json, Extension.isTypeScript] using Enriched.add itself .nil
      · simpa [json] using Enriched.refl _
  appended place := .refl _

/-! ## Main result -/

/-- What may become of a result when files with some more extensions are admitted.  It may move
to such a file; else it stays.  So no result is lost, and none moves to source text. -/
structure MovesOnlyTo (extensions : List Extension) (before after : Option Resolved) : Prop where
  moves : after = before ∨ ∃ found, after = some found ∧ EndsInOne extensions found.path
  resolves : ∀ found, before = some found → ∃ other, after = some other
  typed : ∀ found, after = some found → ∀ extension : Extension, extension.isTypeScript = true →
    extension.text <:+ found.path.text → before = some found

theorem movesOnlyTo_of_widens {extensions : List Extension} {narrow wide : Options}
    (widens : Widens extensions narrow wide) (host : Host) (importer : Path) (specifier : Text) :
    MovesOnlyTo extensions (resolve host narrow importer specifier).value
      (resolve host wide importer specifier).value := by
  have moves : (resolve host wide importer specifier).value =
        (resolve host narrow importer specifier).value ∨
      ∃ found, (resolve host wide importer specifier).value = some found ∧
        EndsInOne extensions found.path := by
    rw [value_resolve, value_resolve]
    split
    · rcases (enriched_candidates widens host importer specifier).find?_cases host.isFile with
        stays | ⟨path, first, isAdded⟩
      · exact Or.inl (by rw [stays])
      · exact Or.inr ⟨_, by rw [first, Option.map_some], isAdded⟩
    · exact Or.inl rfl
  refine ⟨moves, ?resolves, ?typed⟩
  case resolves =>
    intro found isFound
    rcases moves with stays | ⟨other, isOther, -⟩
    · exact ⟨found, by rw [stays, isFound]⟩
    · exact ⟨other, isOther⟩
  case typed =>
    intro found isFound source typed sourceEnds
    rcases moves with stays | ⟨other, isOther, extension, member, ends⟩
    · rw [← stays, isFound]
    · -- Source text does not end in an extension that was added.
      obtain rfl : found = other := Option.some.inj (isFound.symm.trans isOther)
      have untyped := widens.untyped extension member
      rcases Extension.eq_or_isTypeScript_of_suffixes (widens.known extension member)
        (Extension.ne_unknown_of_isTypeScript typed) ends sourceEnds with rfl | ⟨alsoTyped, -⟩
      · simp [untyped] at typed
      · simp [untyped] at alsoTyped

/-- Admitting scripts moves results to scripts only, and admitting JSON files moves them to JSON
files only.  What resolved before still does, and no result moves to other source text. -/
theorem resolve_movesOnlyTo (host : Host) (options : Options) (importer : Path)
    (specifier : Text) :
    MovesOnlyTo [.js, .jsx, .mjs, .cjs]
        (resolve host { options with allowJs := false } importer specifier).value
        (resolve host { options with allowJs := true } importer specifier).value ∧
      MovesOnlyTo [.json]
        (resolve host { options with resolveJsonModule := false } importer specifier).value
        (resolve host { options with resolveJsonModule := true } importer specifier).value :=
  ⟨movesOnlyTo_of_widens (widens_allowJs options) host importer specifier,
    movesOnlyTo_of_widens (widens_resolveJsonModule options) host importer specifier⟩

end Resolution

end Relink
