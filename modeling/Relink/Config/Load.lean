import Relink.Config.Basic
import Relink.FileSystem

/-!
# Loading configuration files

A file is loaded together with the chain of files it extends.  Of each option the
nearest file that sets it decides.  A chain that comes back to a file it has
passed is an error.
-/

namespace Relink

namespace Config

/-- Why a configuration could not be loaded. -/
inductive LoadError
  | cycle (place : Path)
  | unreadable (path : Path) (cause : IoError)
  | malformed (path : Path) (cause : Json.Error)
  | noParent
  | invalidOptions (path : Path) (cause : OptionError)
deriving DecidableEq, Repr

/-- A link in the chain of explanations of an error. -/
inductive Explanation
  | text (message : Text)
  | io (error : IoError)
  | json (error : Json.Error)
deriving DecidableEq, Repr

/-- What is said about a text that is no configuration. -/
def parseExplanations (error : Json.Error) : List Explanation :=
  [.text "failed to parse tsconfig JSON".toList, .json error]

/-- The explanations of an error, the outermost first. -/
def LoadError.explanations : LoadError → List Explanation
  | cycle place => [.text ("tsconfig extends cycle detected at ".toList ++ place.text)]
  | unreadable path cause =>
      [.text ("failed to read tsconfig: ".toList ++ path.text), .io cause]
  | malformed path cause =>
      .text ("failed to parse tsconfig: ".toList ++ path.text) :: parseExplanations cause
  | noParent => [.text "tsconfig has no parent directory".toList]
  | invalidOptions path cause =>
      [.text ("invalid compilerOptions in ".toList ++ path.text), .text cause.message]

/-- The configuration of the file at `path` and of the files it extends.
`visited` holds the places passed before. -/
def loadAfter (system : FileSystem) (visited : List Path) (path : Path) :
    Except LoadError Config :=
  match _unseen : visited.any (·.same (system.place path)) with
  | true => .error (.cycle (system.place path))
  | false =>
      match _readable : system.read path with
      | .error cause => .error (.unreadable path cause)
      | .ok text =>
          match parse text with
          | .error cause => .error (.malformed path cause)
          | .ok config =>
              match config.base with
              | none => .ok config
              | some base =>
                  match basePath? path base with
                  | none => .error .noParent
                  | some next =>
                      match loadAfter system (system.place path :: visited) next with
                      | .error error => .error error
                      | .ok far => .ok (config.onTopOf far)
termination_by (system.unvisited visited).length
decreasing_by exact FileSystem.length_unvisited_lt _readable _unseen

/-- The configuration of the file at `path` and of the files it extends. -/
def load (system : FileSystem) (path : Path) : Except LoadError Config :=
  loadAfter system [] path

/-- The validated options of the file at `path` and of the files it extends. -/
def loadOptions (system : FileSystem) (path : Path) : Except LoadError Options :=
  match load system path with
  | .error error => .error error
  | .ok config =>
      match Options.ofRaw config.compilerOptions with
      | .error cause => .error (.invalidOptions path cause)
      | .ok options => .ok options

end Config

end Relink
