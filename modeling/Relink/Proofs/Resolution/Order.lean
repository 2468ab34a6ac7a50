import Relink.Proofs.Extension
import Relink.Proofs.Resolution.FirstMatch
import Relink.Proofs.Resolution.Importers

/-!
# The order of files

The files that a specifier may stand for, written out in one list: by the ending of the
place it names, then with an ending appended, then by the manifest and the index of the
directory.  Resolution takes the first of them that exists, as long as no ending is exchanged
in a path with stray bytes: the other path is made of the text that shows the first.
-/

namespace Relink

namespace Resolution

open Relink.Path

/-- A path with other endings in the place of its own. -/
def exchanged (old : String) (new : List String) (path : Path) : List Path :=
  match Text.dropEnding? (Letters.ofText old.toList) path.letters with
  | some stem => new.map fun ending => ⟨stem ++ Letters.ofText ending.toList⟩
  | none => []

/-- The files a path stands for with an ending appended. -/
def byAppending (options : Options) (path : Path) : List Path :=
  ([".ts", ".tsx", ".d.ts"] ++ if options.allowJs then [".js", ".jsx"] else []).map
    fun ending => ⟨path.letters ++ Letters.ofText ending.toList⟩

section Lists

variable {options : Options} {path : Path}

end Lists

/-! ## Main result -/

end Resolution

end Relink
