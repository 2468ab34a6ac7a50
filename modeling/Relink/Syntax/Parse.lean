import Relink.Syntax.Grammar.Brackets
import Relink.Syntax.Grammar.Markup
import Relink.Syntax.Grammar.Modules

/-!
# Parsing

The text of a module is read as a tree.  Positions count bytes from where the file
begins among the files of a session.
-/

namespace Relink

namespace Syntax

/-- What a parser for a goal does, given the one for the next level. -/
def goalParser [Parser.Nested] : Parser.Goal → Parser Program
  | .expression => Grammar.expression
  | .assignment => Grammar.assignment
  | .binary minimum => Grammar.binary minimum
  | .unary => Grammar.unary
  | .subject => Grammar.subject
  | .members => Grammar.members
  | .brackets async => Grammar.brackets async
  | .object => Grammar.objectLiteral
  | .entity => Grammar.entity
  | .pattern => Grammar.pattern
  | .type => Grammar.wholeType
  | .plainType => Grammar.plainType
  | .markup inner => Grammar.element inner
  | .statement => Grammar.anyStatement false
  | .item inModule => Grammar.item inModule

/-- The parser for a goal with some levels below it. -/
def parserWithin : (depth : Nat) → Parser.Goal → Parser Program
  | 0, _ => failure
  | depth + 1, goal =>
      letI : Parser.Nested := ⟨parserWithin depth⟩
      goalParser goal

/-- The number of levels that suffices for a text of a given length: few constructs
nest without a character of their own. -/
def depthFor (length : Nat) : Nat := 16 * (length + 4)

/-- The items of a module up to the end of the text. -/
def moduleItems : Parser (List Program) := do
  let depth := depthFor (← get).size
  Parser.gather do
    if (← Parser.token).shape = .finish then pure none
    else some <$> parserWithin depth (.item true)

/-- A parsed program with its comments. -/
structure Parsed where
  program : Program
  comments : Comments

/-- The line that names an interpreter, and the text behind it. -/
def splitInterpreter (text : Text) : Option Text × Text :=
  match text with
  | '#' :: '!' :: rest =>
      let line := rest.takeWhile fun char => !isLineEnd char
      (some line, rest.drop line.length)
  | _ => (none, text)

/-- The module that a text holds, none if it holds none.  `markup` says whether
elements may be written in it. -/
def parse? (markup : Bool) (start : Nat) (text : Text) : Option Parsed := do
  let (interpreter, rest) := splitInterpreter text
  let skipped := Text.byteLength text - Text.byteLength rest
  let cursor := Cursor.first (.top markup) (start + skipped) interpreter.isSome rest
  let (items, last) ← moduleItems cursor
  let begin :=
    if interpreter.isSome then start
    else if items.isEmpty then start
    else cursor.token.span.start
  let program := .node ⟨.module interpreter, ⟨begin, last.lastStop⟩⟩ items
  some ⟨program, last.comments⟩

end Syntax

end Relink
