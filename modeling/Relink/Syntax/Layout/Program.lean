import Relink.Syntax.Layout.Markup
import Relink.Syntax.Layout.Statements

/-!
# Laying out programs

The parts of a program are laid out before the program itself.  A part has the comments
of its beginning in front, apart from those that only hold others together.
-/

namespace Relink

namespace Syntax

namespace Layout

open Layout.Part

/-- A part without comments, given the parts below it laid out. -/
def arrange (label : Label) (parts : List Part) : Pieces :=
  (expression? label parts
    <|> function? label parts
    <|> class? label parts
    <|> classMember? label parts
    <|> pattern? label parts
    <|> markup? label parts
    <|> type? label parts
    <|> statement? label parts).getD []

/-- Whether the comments before a part are written in front of it. -/
def isLed : Kind → Bool
  | .absent | .list | .computed | .importNamespace | .importNamed _
  | .markup | .markupOpening _ | .markupAttribute | .markupSpread | .markupContainer
  | .markupEmpty | .markupText _ => false
  | .property modifiers => !modifiers.accessor
  | _ => true

/-- Pieces of a part with the comments before it. -/
def led (label : Label) (pieces : Pieces) : Pieces :=
  if isLed label.kind then .leading label.span.start :: pieces else pieces

mutual

/-- The parts of a program with the pieces they are laid out as. -/
def ofProgram : Program → Part
  | .node label children =>
      let parts := ofPrograms children
      .node (label, led label (arrange label parts)) parts
  | .request form label slot children =>
      let parts := ofPrograms children
      .node (label, led label (request form label slot parts)) parts

/-- Programs in a row with the pieces they are laid out as. -/
def ofPrograms : List Program → List Part
  | [] => []
  | program :: more => ofProgram program :: ofPrograms more

end

def ofModule (program : Program) : Pieces :=
  let interpreter :=
    match program.label.kind with
    | .module (some line) => put "#!" ++ [.text line, .line]
    | _ => []
  .leading program.label.span.start :: interpreter ++
    (ofPrograms program.children).flatMap asModuleItem ++
    [.trailing program.label.span.stop]

end Layout

end Syntax

end Relink
