import Relink.Log.Level
import Relink.Trace

/-!
# Log records

Each event that is worth a record has a level, a target, a message and fields.  While a
file is rewritten, its records stand in the scope of the file.
-/

namespace Relink

namespace Log

/-- The value of a field.  Texts that are quoted are written between quotes in lines. -/
inductive Value
  | plain (text : Text)
  | quoted (text : Text)
  | flag (value : Bool)
deriving DecidableEq, Repr

/-- A field with its name. -/
structure Field where
  name : String
  value : Value
deriving DecidableEq, Repr

/-- Something to be logged.  Some fields have a name by which a filter can ask for them
but are not written. -/
structure Record where
  level : Level
  target : Text
  message : String
  fields : List Field
  unwritten : List String
deriving DecidableEq, Repr

/-- The target under which this library logs. -/
def ownTarget : Text := "esm_specifiers".toList

def resolutionTarget : Text := ownTarget ++ "::module_resolver".toList

/-- The target of records about rewriting, and of the scope of a file. -/
def rewritingTarget : Text := ownTarget ++ "::esm_transformer".toList

namespace Record

def ofEvent? : Event → Option Record
  | .skipped specifier => some ⟨.trace, resolutionTarget, "skipping non-relative specifier",
      [⟨"specifier", .quoted specifier⟩], []⟩
  | .probed candidate isFile => some ⟨.trace, resolutionTarget, "probing file",
      [⟨"candidate", .plain candidate.text⟩, ⟨"exists", .flag isFile⟩], []⟩
  | .soughtManifest .. | .readManifest .. => none
  | .ignoredManifest path => some ⟨.debug, resolutionTarget,
      "ignoring malformed package.json", [⟨"path", .plain path.text⟩], ["err"]⟩
  | .followed field target => some ⟨.trace, resolutionTarget, "following package.json field",
      [⟨"field", .quoted field⟩, ⟨"target", .plain target.text⟩], []⟩
  | .resolved specifier importer target => some ⟨.debug, resolutionTarget, "module resolved",
      [⟨"specifier", .quoted specifier⟩, ⟨"containing_file", .plain importer.text⟩,
        ⟨"resolved", .plain target.text⟩], []⟩
  | .unresolved specifier importer strategy => some ⟨.debug, resolutionTarget,
      "module not resolved",
      [⟨"specifier", .quoted specifier⟩, ⟨"containing_file", .plain importer.text⟩,
        ⟨"kind", .plain strategy.name⟩], []⟩
  | .rewritten file specifier replacement extension => some ⟨.debug, rewritingTarget,
      "rewriting module specifier",
      [⟨"file", .plain file.text⟩, ⟨"from", .plain specifier⟩, ⟨"to", .plain replacement⟩,
        ⟨"extension", .quoted extension⟩], []⟩

/-- The names of all that is known about a record. -/
def names (record : Record) : List Text :=
  ("message" :: record.fields.map Field.name ++ record.unwritten).map String.toList

end Record

/-- The scope in which the records of a file stand. -/
structure Scope where
  file : Path
  strategy : Strategy

namespace Scope

def name : String := "esm_transform"

def level : Level := .debug

def texts (scope : Scope) : List (String × Text) :=
  [("file", scope.file.text), ("resolution", scope.strategy.name)]

def fields (scope : Scope) : List Field :=
  scope.texts.map fun (name, text) => ⟨name, .plain text⟩

def text? (scope : Scope) (name : Text) : Option Text :=
  (scope.texts.find? (·.1.toList = name)).map Prod.snd

end Scope

end Log

end Relink
