import Relink.Resolution.Resolve

/-!
# Resolution as a first match

All candidates of a resolution can be listed beforehand: which manifests are read only
decides about the list.  What a specifier stands for is the first file on the list.
-/

namespace Relink

namespace Resolution

variable (host : Host) (options : Options)

/-- The files that a directory may stand for, by its manifest or else by its index. -/
def directoryFiles (directory : Path) : List Path :=
  (((manifest? host directory).value.elim [] Manifest.entries).flatMap fun entry =>
      entryFiles options (directory.join (.ofText entry.2)).normalize) ++
    indexes options directory

/-- The files that a place may stand for. -/
def placeFiles (leniency : Leniency) (asDirectory : Bool) (place : Path) : List Path :=
  (if asDirectory then [] else
      spelled options place ++ if leniency = .exact then [] else appended options place) ++
    if leniency = .directoriesRead then directoryFiles host options place else []

/-- The files that a relative specifier may stand for in an importer. -/
def candidates (importer : Path) (specifier : Text) : List Path :=
  placeFiles host options (leniency host options.strategy importer).value
    (Specifier.namesDirectory specifier) (place importer specifier)

@[simp] theorem value_probe (candidate : Path) :
    (probe host candidate).value = host.isFile candidate := rfl

@[simp] theorem value_firstFile (paths : List Path) :
    (firstFile host paths).value = paths.find? host.isFile := by
  induction paths with
  | nil => rfl
  | cons candidate rest ih =>
      cases found : host.isFile candidate with
      | true => simp [firstFile, found]
      | false => simp [firstFile, found, ih]

@[simp] theorem value_orTry (first second : Traced (Option Path)) :
    (orTry first second).value = first.value.or second.value := by
  cases found : first.value with
  | none => simp [orTry, found]
  | some path => simp [orTry, found]

theorem value_followEntries (directory : Path) (entries : List (Text × Text)) :
    (followEntries host options directory entries).value =
      (entries.flatMap fun entry =>
        entryFiles options (directory.join (.ofText entry.2)).normalize).find? host.isFile := by
  induction entries with
  | nil => rfl
  | cons entry rest ih =>
      change (orTry
        (firstFile host (entryFiles options (directory.join (.ofText entry.2)).normalize))
        (followEntries host options directory rest)).value = _
      rw [value_orTry, value_firstFile, ih, List.flatMap_cons, List.find?_append]

theorem value_inDirectory (directory : Path) :
    (inDirectory host options directory).value =
      (directoryFiles host options directory).find? host.isFile := by
  simp only [inDirectory, directoryFiles, Traced.value_bind, value_orTry, value_followEntries,
    value_firstFile, List.find?_append]

theorem value_locate (leniency : Leniency) (asDirectory : Bool) (place : Path) :
    (locate host options leniency asDirectory place).value =
      (placeFiles host options leniency asDirectory place).find? host.isFile := by
  rw [locate, value_orTry, value_firstFile, placeFiles, List.find?_append]
  congr 1
  split
  · exact value_inDirectory host options place
  · rfl

/-- A relative specifier stands for the first of its candidates that is a file. -/
theorem value_resolve (importer : Path) (specifier : Text) :
    (resolve host options importer specifier).value =
      if Specifier.isRelative specifier then
        ((candidates host options importer specifier).find? host.isFile).map fun path =>
          ⟨path, specifier, Extension.ofPath path⟩
      else none := by
  unfold resolve
  split
  · rw [candidates, ← value_locate]
    simp only [Traced.value_bind]
    split <;> simp_all
  · rfl

theorem value_resolve_of_isRelative {importer : Path} {specifier : Text}
    (relative : Specifier.isRelative specifier = true) :
    (resolve host options importer specifier).value =
      ((candidates host options importer specifier).find? host.isFile).map fun path =>
        ⟨path, specifier, Extension.ofPath path⟩ := by
  rw [value_resolve, if_pos relative]

theorem find?_candidates_of_resolve {importer : Path} {specifier : Text} {found : Resolved}
    (resolved : (resolve host options importer specifier).value = some found) :
    Specifier.isRelative specifier = true ∧
      (candidates host options importer specifier).find? host.isFile = some found.path ∧
        found.extension = Extension.ofPath found.path := by
  rw [value_resolve] at resolved
  split at resolved
  · rename_i relative
    obtain ⟨path, first, rfl⟩ := Option.map_eq_some_iff.1 resolved
    exact ⟨relative, first, rfl⟩
  · cases resolved

end Resolution

end Relink
