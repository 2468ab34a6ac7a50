import Relink.Text.Split

/-!
# Compiler options

The options that decide how a specifier is resolved.  A strategy that is not
given follows from the module format that the compiler emits.
-/

namespace Relink

/-- How a specifier is resolved to a file. -/
inductive Strategy
  | classic
  | node10
  | node16
  | nodeNext
  | bundler
deriving DecidableEq, Repr, Inhabited

/-- Whether the strategy tells ES module importers from CommonJS importers. -/
def Strategy.isNode16Family : Strategy → Bool
  | node16 | nodeNext => true
  | _ => false

/-- The name of a strategy in log records. -/
def Strategy.name : Strategy → Text
  | classic => "Classic".toList
  | node10 => "Node10".toList
  | node16 => "Node16".toList
  | nodeNext => "NodeNext".toList
  | bundler => "Bundler".toList

/-- The module format that the compiler emits. -/
inductive ModuleFormat
  | none
  | commonJs
  | amd
  | umd
  | system
  | esModule
  | node16
  | nodeNext
  | preserve
deriving DecidableEq, Repr, Inhabited

/-- The strategy that goes with a module format. -/
def ModuleFormat.strategy : ModuleFormat → Strategy
  | commonJs => .node10
  | node16 => .node16
  | nodeNext => .nodeNext
  | preserve => .bundler
  | none | amd | umd | system | esModule => .classic

/-- Validated compiler options. -/
structure Options where
  module : Option ModuleFormat
  resolution : Option Strategy
  allowJs : Bool
  resolveJsonModule : Bool
deriving DecidableEq, Repr, Inhabited

namespace Options

/-- The options of a compilation that sets none. -/
def default : Options := ⟨none, none, false, false⟩

/-- The strategy in effect. -/
def strategy (options : Options) : Strategy :=
  match options.resolution, options.module with
  | some strategy, _ => strategy
  | none, some format => format.strategy
  | none, none => .node10

end Options

end Relink
