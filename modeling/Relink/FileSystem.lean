import Relink.Path.Basic

/-!
# File systems

A state of the file system as configuration loading sees it: reading a path, the
canonical path behind it, and the regular files there are.
-/

namespace Relink

/-- Why a file could not be read. -/
inductive IoError
  | notFound
  | isADirectory
  | notADirectory
  | invalidData
  | invalidInput
  | invalidFilename
  | filesystemLoop
deriving DecidableEq, Repr, Inhabited

/-- A state of the file system.  There are finitely many regular files, and what
can be read is one of them.  The root is a directory, so that a path to something
that can be read takes a step besides the root. -/
structure FileSystem where
  read : Path → Except IoError Text
  canonical? : Path → Option Path
  files : List Path
  canonical_of_read : ∀ {path : Path} {text : Text}, read path = .ok text →
    ∃ place ∈ files, canonical? path = some place
  step_of_read : ∀ {path : Path} {text : Text}, read path = .ok text →
    ∃ step ∈ path.components, step ≠ .root

namespace FileSystem

/-- The file system that holds just these files, each at its own path. -/
def ofFiles (entries : List (Path × Text)) : FileSystem where
  read := fun path =>
    match entries.find? fun entry => entry.1.same path with
    | some entry =>
        if path.components.any (· ≠ .root) then .ok entry.2 else .error .isADirectory
    | none => .error .notFound
  canonical? := fun path => (entries.find? fun entry => entry.1.same path).map Prod.fst
  files := entries.map Prod.fst
  canonical_of_read := by
    intro path text readable
    split at readable
    · rename_i entry found
      exact ⟨entry.1, List.mem_map_of_mem (List.mem_of_find?_eq_some found), by simp [found]⟩
    · cases readable
  step_of_read := by
    intro path text readable
    split at readable
    · split at readable
      · rename_i moves
        simpa using moves
      · cases readable
    · cases readable

/-- The canonical path, or the path itself where there is none. -/
def place (system : FileSystem) (path : Path) : Path :=
  (system.canonical? path).getD path

/-- The regular files at none of the given places. -/
def unvisited (system : FileSystem) (visited : List Path) : List Path :=
  system.files.filter fun file => !visited.any (·.same file)

theorem length_unvisited_lt {system : FileSystem} {visited : List Path} {path : Path}
    {text : Text} (readable : system.read path = .ok text)
    (unseen : (visited.any (·.same (system.place path))) = false) :
    (system.unvisited (system.place path :: visited)).length <
      (system.unvisited visited).length := by
  obtain ⟨place, isFile, isPlace⟩ := system.canonical_of_read readable
  have placed : system.place path = place := by simp [FileSystem.place, isPlace]
  rw [placed] at unseen ⊢
  have split : system.unvisited (place :: visited) =
      (system.unvisited visited).filter fun file => !place.same file := by
    simp [unvisited, List.filter_filter]
  rw [split]
  refine List.length_filter_lt_length_iff_exists.2 ⟨place, ?_, by simp [Path.same]⟩
  simp only [unvisited, List.mem_filter]
  exact ⟨isFile, by simp [unseen]⟩

end FileSystem

end Relink
