import Relink.Resolution.Resolve

/-!
# Importers

Under some strategies an ES module has to spell out the files it imports.  Whether an
importer is one is said here without the search: by its extension, or else by the nearest
directory above it that has a manifest.
-/

namespace Relink

namespace Resolution

variable (host : Host)

/-- The manifest of a directory: its file is there, can be read, and is well-formed. -/
def manifestAt? (directory : Path) : Option Manifest :=
  if host.isFile (directory.join Manifest.fileName) then
    (host.read (directory.join Manifest.fileName)).bind Manifest.parse?
  else none

/-- The manifest of a directory or else of the nearest one above it that has any. -/
def Nearest (directory : Path) (manifest : Manifest) : Prop :=
  ∃ nearer holder farther, directory.ancestors = nearer ++ holder :: farther ∧
    (∀ passed ∈ nearer, manifestAt? host passed = none) ∧
      manifestAt? host holder = some manifest

/-- Whether an importer is an ES module. -/
def IsEsm (importer : Path) : Prop :=
  Extension.ofPath importer ∈ [.mts, .mjs, .dmts] ∨
    Extension.ofPath importer ∉ [.cts, .cjs, .dcts] ∧
      ∃ manifest, Nearest host importer.directory manifest ∧
        manifest.format = some "module".toList

@[simp] theorem value_manifest? (directory : Path) :
    (manifest? host directory).value = manifestAt? host directory := by
  unfold manifest? manifestAt?
  simp only [Traced.value_bind]
  split
  · cases host.read (directory.join Manifest.fileName) with
    | none => rfl
    | some text =>
        simp only [Traced.value_bind, Option.bind_some]
        cases Manifest.parse? text <;> rfl
  · rfl

theorem value_nearestManifest? (directories : List Path) :
    (nearestManifest? host directories).value = directories.findSome? (manifestAt? host) := by
  induction directories with
  | nil => rfl
  | cons directory rest ih =>
      rw [nearestManifest?, Traced.value_bind, value_manifest?, List.findSome?_cons]
      cases manifestAt? host directory with
      | none => exact ih
      | some manifest => rfl

theorem value_nearestManifest?_eq_some_iff {directory : Path} {manifest : Manifest} :
    (nearestManifest? host directory.ancestors).value = some manifest ↔
      Nearest host directory manifest := by
  rw [value_nearestManifest?, List.findSome?_eq_some_iff]
  constructor
  · rintro ⟨nearer, holder, farther, cut, holds, passed⟩
    exact ⟨nearer, holder, farther, cut, passed, holds⟩
  · rintro ⟨nearer, holder, farther, cut, passed, holds⟩
    exact ⟨nearer, holder, farther, cut, holds, passed⟩

theorem packageFormat?_eq_module_iff (manifest : Manifest) :
    manifest.packageFormat? = some .module ↔ manifest.format = some "module".toList := by
  unfold Manifest.packageFormat?
  cases manifest.format with
  | none => simp
  | some value =>
      simp only [Option.some.injEq]
      by_cases isModule : value = "module".toList
      · rw [if_pos isModule]
        exact iff_of_true rfl isModule
      · rw [if_neg isModule]
        refine iff_of_false ?_ isModule
        split <;> exact nofun

theorem value_isEsmImporter_iff (importer : Path) :
    (isEsmImporter host importer).value = true ↔ IsEsm host importer := by
  have byManifest :
      (nearestManifest? host importer.directory.ancestors).value.bind Manifest.packageFormat? =
          some .module ↔
        ∃ manifest, Nearest host importer.directory manifest ∧
          manifest.format = some "module".toList := by
    rw [Option.bind_eq_some_iff]
    simp only [value_nearestManifest?_eq_some_iff, packageFormat?_eq_module_iff]
  rw [isEsmImporter, IsEsm, ← byManifest]
  simp only [Traced.value_bind, Traced.value_pure]
  cases Extension.ofPath importer <;> simp [Extension.forcesEsm, Extension.forcesCommonJs]

instance (importer : Path) : Decidable (IsEsm host importer) :=
  decidable_of_iff _ (value_isEsmImporter_iff host importer)

theorem value_leniency (strategy : Strategy) (importer : Path) :
    (leniency host strategy importer).value =
      if strategy = .classic then .extensionsAdded
      else if strategy.isNode16Family = true ∧ IsEsm host importer then .exact
      else .directoriesRead := by
  have esm := value_isEsmImporter_iff host importer
  cases strategy <;> simp [leniency, Strategy.isNode16Family, ← esm]

end Resolution

end Relink
