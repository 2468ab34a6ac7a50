import Relink.Json.Decode
import Relink.Path.Basic

/-!
# Package manifests

The fields of a `package.json` that resolution looks at.
-/

namespace Relink

/-- What a package says about its entry files and its module format. -/
structure Manifest where
  main : Option Text
  types : Option Text
  typings : Option Text
  format : Option Text
deriving DecidableEq, Repr, Inhabited

/-- The module format of the scripts of a package. -/
inductive PackageFormat
  | module
  | commonJs
deriving DecidableEq, Repr

namespace Manifest

/-- The name of a manifest file. -/
def fileName : Path := .ofString "package.json"

/-- A manifest that says nothing. -/
def blank : Manifest := ⟨none, none, none, none⟩

/-- The fields of a manifest, in the order of their positions. -/
def fields : List (Json.Field Manifest) :=
  [.text "main" fun value manifest => { manifest with main := value },
   .text "types" fun value manifest => { manifest with types := value },
   .text "typings" fun value manifest => { manifest with typings := value },
   .text "type" fun value manifest => { manifest with format := value }]

/-- The manifest a text holds, none if the text is malformed. -/
def parse? (text : Text) : Option Manifest :=
  (Json.decode (Json.readRecord fields true blank Json.depthLimit) text).toOption

/-- The fields that may name the entry of the package, in the order in which they
are followed. -/
def entries (manifest : Manifest) : List (Text × Text) :=
  [("typings".toList, manifest.typings), ("types".toList, manifest.types),
    ("main".toList, manifest.main)].filterMap fun (field, value) =>
      value.map fun value => (field, value)

/-- The module format the package asks for, none if it asks for none that is
known. -/
def packageFormat? (manifest : Manifest) : Option PackageFormat :=
  match manifest.format with
  | some value =>
      if value = "module".toList then some .module
      else if value = "commonjs".toList then some .commonJs
      else none
  | none => none

end Manifest

end Relink
