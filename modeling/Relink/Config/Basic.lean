import Relink.Jsonc
import Relink.Options.Raw
import Relink.Path.Basic

/-!
# Configuration files

A configuration file holds compiler options and may name another file that it
extends.  It is read as JSON with comments and trailing commas.
-/

namespace Relink

/-- What a configuration file says. -/
structure Config where
  base : Option Text
  compilerOptions : Option RawOptions
deriving DecidableEq, Repr, Inhabited

namespace Config

def blank : Config := ⟨none, none⟩

/-- The fields of a configuration, in the order of their positions. -/
def fields : List (Json.Field Config) :=
  [.text "extends" fun value config => { config with base := value },
   { key := "compilerOptions".toList
     read := fun depth => do
       let value ← Json.readOptional (RawOptions.read depth)
       pure fun config => { config with compilerOptions := value }
     take := fun
       | .null => .ok fun config => { config with compilerOptions := none }
       | value => do
           let raw ← Json.takeRecord RawOptions.fields RawOptions.blank value
           pure fun config => { config with compilerOptions := some raw } }]

def parse (text : Text) : Except Json.Error Config :=
  Json.decode (Json.readRecord fields false blank Json.depthLimit) (Jsonc.strip text)

/-- The path of the file that the file `path` extends by the name `base`.  A name
without an extension is a JSON file, and a relative one is looked up beside
`path`. -/
def basePath? (path : Path) (base : Text) : Option Path :=
  path.parent?.map fun directory =>
    let named : Path := .ofText base
    directory.join
      (if named.extension?.isNone then named.withExtension (Letters.ofText "json".toList)
      else named)

/-- The configuration of a file on top of the one that it extends. -/
def onTopOf (config base : Config) : Config where
  base := none
  compilerOptions :=
    match config.compilerOptions, base.compilerOptions with
    | some near, some far => some (near.orElse far)
    | near, far => near.or far

end Config

end Relink
