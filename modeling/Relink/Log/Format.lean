import Relink.Json.Value
import Relink.Log.Filter
import Relink.Text.Hidden

/-!
# Log formats

Records are written as lines of text, as a tree under the scope of their file, or as
JSON objects.
-/

namespace Relink

namespace Log

/-- How records are written. -/
inductive Format
  | text
  | tree
  | json
deriving DecidableEq, Repr

/-- The format that a text names.  Records are lines of text unless it names another. -/
def Format.of (text : Text) : Format :=
  let name := text.trim.toLower
  if name = "tree".toList then .tree
  else if name = "json".toList then .json
  else .text

/-- A line of a log: text, or an object. -/
inductive Line
  | text (text : Text)
  | object (value : Json)
deriving Repr

/-! ## Values -/

/-- A character as it is written between quotes. -/
def escaped (char : Char) : Text :=
  if char = '"' || char = '\\' then ['\\', char]
  else if char = '\n' then ['\\', 'n']
  else if char = '\r' then ['\\', 'r']
  else if char = '\t' then ['\\', 't']
  else if char = '\x00' then ['\\', '0']
  else if Text.isHidden char then
    ['\\', 'u', '{'] ++ Nat.toDigits 16 char.toNat ++ ['}']
  else [char]

def Value.text : Value → Text
  | plain text => text
  | quoted text => '"' :: (text.flatMap escaped ++ ['"'])
  | flag value => (if value then "true" else "false").toList

def Value.json : Value → Json
  | plain text => .text text
  | quoted text => .text text
  | flag value => .flag value

def Field.text (field : Field) : Text :=
  field.name.toList ++ '=' :: field.value.text

def Field.member (field : Field) : Text × Json :=
  (field.name.toList, field.value.json)

/-- Texts in a row with a separator behind all but the last. -/
def joined (separator : Text) : List Text → Text
  | [] => []
  | [last] => last
  | first :: more => first ++ separator ++ joined separator more

def Level.heading (level : Level) : Text :=
  level.word.map Char.toUpper

/-! ## Records -/

def Record.textLine (scope : Option Scope) (record : Record) : Text :=
  let place : Text := scope.elim [] fun scope =>
    Scope.name.toList ++ '{' :: joined [' '] (scope.fields.map Field.text) ++ "\x7d: ".toList
  joined [' '] (record.level.heading :: (place ++ record.message.toList) ::
    record.fields.map Field.text)

def Record.object (scope : Option Scope) (record : Record) : Json :=
  let fields := ("message".toList, .text record.message.toList) ::
    record.fields.map Field.member
  let place : List (Text × Json) := scope.elim [] fun scope =>
    [("span".toList, .object
      (("name".toList, .text Scope.name.toList) :: scope.fields.map Field.member))]
  .object ([("level".toList, .text record.level.heading), ("target".toList, .text record.target),
    ("fields".toList, .object fields)] ++ place)

def Record.branch (record : Record) : Text :=
  record.level.heading ++ ' ' ::
    joined ", ".toList (record.message.toList :: record.fields.map Field.text)

/-- A branch of a tree.  Lines that its text has beyond the first stand below it. -/
def branchLines (record : Record) : List Text :=
  match Text.splitOn '\n' record.branch with
  | [] => []
  | first :: more => ("├─ ".toList ++ first) :: more.map ("│  ".toList ++ ·)

/-- Records as a tree.  A scope is opened by its first record. -/
def treeLines (scope : Option Scope) (records : List Record) : List Text :=
  match scope with
  | none => records.flatMap fun record => Text.splitOn '\n' record.branch
  | some scope =>
      if records.isEmpty then []
      else
        let heading := Scope.name.toList ++ ' ' ::
          joined ", ".toList (scope.fields.map Field.text)
        (Text.splitOn '\n' heading).map ('┐' :: ·) ++ records.flatMap branchLines ++ [['┘']]

def Format.lines (format : Format) (scope : Option Scope) (records : List Record) : List Line :=
  match format with
  | text =>
      (records.flatMap fun record => Text.splitOn '\n' (record.textLine scope)).map .text
  | json => records.map fun record => .object (record.object scope)
  | tree => (treeLines scope records).map .text

/-! ## Settings -/

/-- What is logged, how, and what could not be read of it. -/
structure Settings where
  filter : Filter
  format : Format
  unread : List (Text × DirectiveError)

namespace Settings

def of (directives format : Text) : Settings :=
  ⟨.of directives, .of format, Filter.unread directives⟩

/-- The settings that three variables give: the directives for this library, those
that all libraries share, and the format.  Nothing is logged without directives. -/
def ofVariables? (own shared format : Option Text) : Option Settings :=
  let format := format.getD []
  match own with
  | some directives => some (.of (scopedDirectives directives) format)
  | none => shared.map fun directives => .of directives format

/-- The note on a directive that could not be read. -/
def note (directive : Text) (error : DirectiveError) : Line :=
  .text ("ignoring \x60".toList ++ directive ++ "\x60: ".toList ++ error.message.toList)

/-- The log of events, which may stand in the scope of a file. -/
def log (settings : Settings) (scope : Option Scope) (events : List Event) : List Line :=
  (settings.unread.map fun (directive, error) => note directive error) ++
    settings.format.lines (settings.filter.visibleScope scope)
      (settings.filter.records scope events)

end Settings

end Log

end Relink
