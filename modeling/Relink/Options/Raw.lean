import Relink.Json.Decode
import Relink.Options.Basic
import Relink.Text.Blank
import Relink.Text.LetterCase

/-!
# Compiler options as written

The option values of a configuration file before they are validated.  A flag may
also be written as a word, and the name of a module format or strategy may be
written with any letter case, dashes, underscores and blanks.
-/

namespace Relink

/-- Compiler options as a configuration file gives them. -/
structure RawOptions where
  module : Option Text
  moduleResolution : Option Text
  allowJs : Option Bool
  resolveJsonModule : Option Bool
deriving DecidableEq, Repr, Inhabited

/-- An option value that stands for nothing known. -/
inductive OptionError
  | unsupportedModule (value : Text)
  | unsupportedResolution (value : Text)
deriving DecidableEq, Repr

/-- The wording of an option error. -/
def OptionError.message : OptionError → Text
  | unsupportedModule value =>
      "unsupported compilerOptions.module '".toList ++ value ++ ['\'']
  | unsupportedResolution value =>
      "unsupported compilerOptions.moduleResolution '".toList ++ value ++ ['\'']

namespace RawOptions

/-- Options of which none is given. -/
def blank : RawOptions := ⟨none, none, none, none⟩

/-! ## Reading -/

/-- The flag a word stands for. -/
def flagOfWord? (word : Text) : Option Bool :=
  let plain := word.trim.toLower
  if ["true", "1", "yes", "on"].any (·.toList = plain) then some true
  else if ["false", "0", "no", "off"].any (·.toList = plain) then some false
  else none

/-- What is wrong with a word that is no flag. -/
def flagComplaint (word : Text) : Text :=
  "invalid boolean value: '".toList ++ word ++
    "'. Expected true, false, 'true', or 'false'".toList

/-- A flag, a word that stands for one, or nothing. -/
def readFlag? (depth : Nat) : Json.Reader (Option Bool) := do
  let token ← Json.Reader.peek
  match token.shape with
  | .word none spelled => do
      Json.Reader.accept spelled
      Json.Reader.advance
      pure none
  | .word (some value) spelled => do
      Json.Reader.accept spelled
      Json.Reader.advance
      pure (some value)
  | .quoted kept _ => do
      let word ← Json.Reader.accept kept
      Json.Reader.advance
      match flagOfWord? word with
      | some value => pure (some value)
      | none => Json.Reader.unfit (some (flagComplaint word))
  | _ => do
      Json.pass (.kept depth)
      Json.Reader.unfit none

/-- A flag, a word that stands for one, or nothing, from a value. -/
def takeFlag? : Json → Except (Option Text) (Option Bool)
  | .null => .ok none
  | .flag value => .ok (some value)
  | .text word =>
      match flagOfWord? word with
      | some value => .ok (some value)
      | none => .error (some (flagComplaint word))
  | _ => .error none

/-- A field that holds a flag or nothing. -/
def flagField (key : String) (set : Option Bool → RawOptions → RawOptions) :
    Json.Field RawOptions where
  key := key.toList
  read := fun depth => set <$> readFlag? depth
  take := fun value => set <$> takeFlag? value

/-- The fields of compiler options, in the order of their positions. -/
def fields : List (Json.Field RawOptions) :=
  [.text "module" fun value raw => { raw with module := value },
   .text "moduleResolution" fun value raw => { raw with moduleResolution := value },
   flagField "allowJs" fun value raw => { raw with allowJs := value },
   flagField "resolveJsonModule" fun value raw => { raw with resolveJsonModule := value }]

/-- Compiler options at a depth of a document. -/
def read (depth : Nat) : Json.Reader RawOptions :=
  Json.readRecord fields false blank depth

/-- Compiler options from a value that was read elsewhere. -/
def ofJson (value : Json) : Except Json.Error RawOptions :=
  (Json.takeRecord fields blank value).mapError Json.Error.unfit

/-! ## Validation -/

/-- The name of an option value with its decoration taken off. -/
def plainName (value : Text) : Text :=
  Text.toAsciiLower (value.filter fun char => !(char = '-' || char = '_' || isBlank char))

/-- The module formats by name. -/
def formatNames : List (String × ModuleFormat) :=
  [("none", .none), ("commonjs", .commonJs), ("amd", .amd), ("umd", .umd),
   ("system", .system), ("es6", .esModule), ("es2015", .esModule), ("es2020", .esModule),
   ("es2022", .esModule), ("esnext", .esModule), ("node16", .node16),
   ("nodenext", .nodeNext), ("preserve", .preserve)]

/-- The strategies by name. -/
def strategyNames : List (String × Strategy) :=
  [("classic", .classic), ("node", .node10), ("node10", .node10), ("node16", .node16),
   ("nodenext", .nodeNext), ("bundler", .bundler)]

/-- What a name stands for. -/
def lookUp? {α : Type} (names : List (String × α)) (value : Text) : Option α :=
  (names.find? (·.1.toList = plainName value)).map Prod.snd

/-- The meaning of an option value.  A blank one counts as not given. -/
def named? {α : Type} (names : List (String × α)) (error : Text → OptionError)
    (value : Option Text) : Except OptionError (Option α) :=
  match value.map Text.trim with
  | none | some [] => .ok none
  | some name =>
      match lookUp? names name with
      | some meaning => .ok (some meaning)
      | none => .error (error name)

/-- The validated options.  The module format is looked at first. -/
def validate (raw : RawOptions) : Except OptionError Options := do
  let module ← named? formatNames .unsupportedModule raw.module
  let resolution ← named? strategyNames .unsupportedResolution raw.moduleResolution
  pure ⟨module, resolution, raw.allowJs.getD false, raw.resolveJsonModule.getD false⟩

/-- Each value from `near`, or from `far` where `near` has none. -/
def orElse (near far : RawOptions) : RawOptions where
  module := near.module.or far.module
  moduleResolution := near.moduleResolution.or far.moduleResolution
  allowJs := near.allowJs.or far.allowJs
  resolveJsonModule := near.resolveJsonModule.or far.resolveJsonModule

end RawOptions

namespace Options

/-- The validated options of a compilation that may not give any. -/
def ofRaw : Option RawOptions → Except OptionError Options
  | some raw => raw.validate
  | none => .ok default

end Options

end Relink
