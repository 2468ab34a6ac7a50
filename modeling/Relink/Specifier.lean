import Relink.Path.Normal

/-!
# Module specifiers

A specifier names the module an import asks for.  Only relative specifiers are
this library's business; all others are left to the runtime.  The specifier of a
resolved file is the relative path to it, with the suffix of a source file
exchanged for the suffix of the file it compiles to.
-/

namespace Relink

namespace Specifier

/-- The ending of a source file that is compiled. -/
def sourceEnding : Text := ['.', 't', 's']

/-- The ending of the file that the runtime loads instead. -/
def runtimeEnding : Text := ['.', 'm', 'j', 's']

/-- Whether a specifier begins with `./` or `../`. -/
def isRelative (specifier : Text) : Bool :=
  ['.', '/'].isPrefixOf specifier || ['.', '.', '/'].isPrefixOf specifier

/-- Whether a specifier ends in a slash, so that it names a directory. -/
def namesDirectory (specifier : Text) : Bool :=
  specifier.getLast? = some '/'

/-- The specifier with the source ending exchanged for the runtime ending. -/
def toRuntime (specifier : Text) : Text :=
  match Text.dropEnding? sourceEnding specifier with
  | some stem => stem ++ runtimeEnding
  | none => specifier

/-- A text that leads to a file, made to begin with `./` or `../`. -/
def makeRelative (way : Text) : Text :=
  if isRelative way then way else '.' :: '/' :: way

/-- The specifier by which the file `importer` asks for the file `target`. -/
def toFile (importer target : Path) : Text :=
  toRuntime (makeRelative (importer.directory.relative target))

end Specifier

end Relink
