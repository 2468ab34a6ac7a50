import Relink.Manifest
import Relink.Resolution.Candidates
import Relink.Specifier
import Relink.Trace

/-!
# Resolution

A relative specifier resolves to the first existing file of an ordered list of
candidates.  The list depends on the strategy, on whether the specifier names a
directory, and on whether the importer is an ES module.  Nothing is remembered
between two resolutions.
-/

namespace Relink

/-- The file a specifier stands for. -/
structure Resolved where
  path : Path
  specifier : Text
  extension : Extension
deriving DecidableEq, Repr, Inhabited

namespace Resolution

/-- How much a specifier may leave open. -/
inductive Leniency
  | extensionsAdded
  | directoriesRead
  | exact
deriving DecidableEq, Repr

/-- Asks whether a candidate is a file. -/
def probe (host : Host) (candidate : Path) : Traced Bool := do
  let found := host.isFile candidate
  .record (.probed candidate found)
  pure found

/-- The first candidate that is a file.  None after it is asked for. -/
def firstFile (host : Host) : List Path → Traced (Option Path)
  | [] => pure none
  | candidate :: rest => do
      if ← probe host candidate then pure (some candidate) else firstFile host rest

/-- The result of the first attempt, or of the second if the first has none. -/
def orTry (first second : Traced (Option Path)) : Traced (Option Path) := do
  match ← first with
  | some path => pure (some path)
  | none => second

/-- The manifest of a directory.  One that cannot be read or is malformed counts
as missing. -/
def manifest? (host : Host) (directory : Path) : Traced (Option Manifest) := do
  let path := directory.join Manifest.fileName
  let found := host.isFile path
  .record (.soughtManifest path found)
  if found then
    let text := host.read path
    .record (.readManifest path text.isSome)
    match text with
    | none => pure none
    | some text =>
        match Manifest.parse? text with
        | some manifest => pure (some manifest)
        | none => do
            .record (.ignoredManifest path)
            pure none
  else
    pure none

/-- The nearest manifest among those of the given directories. -/
def nearestManifest? (host : Host) : List Path → Traced (Option Manifest)
  | [] => pure none
  | directory :: rest => do
      match ← manifest? host directory with
      | some manifest => pure (some manifest)
      | none => nearestManifest? host rest

/-- Whether an importer is an ES module: by its extension, or else by the nearest
manifest at or above its directory, which is looked for in any case. -/
def isEsmImporter (host : Host) (importer : Path) : Traced Bool := do
  let manifest ← nearestManifest? host importer.directory.ancestors
  let extension := Extension.ofPath importer
  pure
    (if extension.forcesEsm then true
    else if extension.forcesCommonJs then false
    else manifest.bind Manifest.packageFormat? = some .module)

/-- How much the specifiers of an importer may leave open. -/
def leniency (host : Host) (strategy : Strategy) (importer : Path) : Traced Leniency :=
  match strategy with
  | .classic => pure .extensionsAdded
  | .node10 | .bundler => pure .directoriesRead
  | .node16 | .nodeNext => do
      pure (if ← isEsmImporter host importer then .exact else .directoriesRead)

/-- The file that the first usable entry of a package stands for. -/
def followEntries (host : Host) (options : Options) (directory : Path) :
    List (Text × Text) → Traced (Option Path)
  | [] => pure none
  | (field, value) :: rest => do
      let target := (directory.join (.ofText value)).normalize
      .record (.followed field target)
      orTry (firstFile host (entryFiles options target))
        (followEntries host options directory rest)

/-- The file a directory stands for, by its manifest or else by its index. -/
def inDirectory (host : Host) (options : Options) (directory : Path) :
    Traced (Option Path) := do
  let manifest ← manifest? host directory
  orTry (followEntries host options directory (manifest.elim [] Manifest.entries))
    (firstFile host (indexes options directory))

/-- The file a candidate place stands for.  `asDirectory` says that it can only be
a directory. -/
def locate (host : Host) (options : Options) (leniency : Leniency) (asDirectory : Bool)
    (place : Path) : Traced (Option Path) :=
  let files := if asDirectory then [] else
    spelled options place ++ if leniency = .exact then [] else appended options place
  orTry (firstFile host files)
    (if leniency = .directoriesRead then inDirectory host options place else pure none)

/-- The place that a relative specifier names, seen from the file that imports
it. -/
def place (importer : Path) (specifier : Text) : Path :=
  (importer.directory.join (.ofText specifier)).normalize

/-- The file a specifier stands for in an importer. -/
def resolve (host : Host) (options : Options) (importer : Path) (specifier : Text) :
    Traced (Option Resolved) := do
  if Specifier.isRelative specifier then
    let leniency ← leniency host options.strategy importer
    match ← locate host options leniency (Specifier.namesDirectory specifier)
        (place importer specifier) with
    | some path => do
        .record (.resolved specifier importer path)
        pure (some ⟨path, specifier, Extension.ofPath path⟩)
    | none => do
        .record (.unresolved specifier importer options.strategy)
        pure none
  else do
    .record (.skipped specifier)
    pure none

end Resolution

end Relink
