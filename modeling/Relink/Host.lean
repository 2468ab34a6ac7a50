import Relink.Path.Basic

/-!
# Hosts

A host answers the two questions module resolution asks about the outside world:
whether a path names a regular file, and what its text is.
-/

namespace Relink

/-- The answers of the outside world. -/
structure Host where
  isFile : Path → Bool
  read : Path → Option Text

/-- Files held in memory, the latest first.  A file without a text exists but
cannot be read. -/
structure Files where
  entries : List (Path × Option Text)
deriving Inhabited

namespace Files

/-- No files. -/
def none : Files := ⟨[]⟩

/-- The files with one more, which hides an earlier one at the same path. -/
def add (files : Files) (path : Path) (text : Option Text) : Files :=
  ⟨(path, text) :: files.entries⟩

/-- The files of a list of which later ones hide earlier ones. -/
def ofList (entries : List (Path × Option Text)) : Files :=
  ⟨entries.reverse⟩

/-- The entry at a path. -/
def find? (files : Files) (path : Path) : Option (Path × Option Text) :=
  files.entries.find? fun entry => entry.1.same path

/-- The host that has just these files. -/
def host (files : Files) : Host where
  isFile := fun path => (files.find? path).isSome
  read := fun path => (files.find? path).bind Prod.snd

end Files

end Relink
