import Relink.Syntax.Comments
import Relink.Syntax.Kind

/-!
# Pieces of printed text

A program is laid out as a row of pieces before any text is made.  Comments are not
known then: a piece marks the place where the comments of a position go, and some
pieces depend on whether there are any.
-/

namespace Relink

namespace Syntax

/-- A piece of printed text. -/
inductive Piece
  /-- Text that is written as it is. -/
  | text (text : Text)
  /-- The end of the line, unless nothing stands in it yet. -/
  | line
  | indent
  | dedent
  /-- The comments before a position. -/
  | leading (position : Nat)
  /-- The comments behind a position, each behind a space. -/
  | trailing (position : Nat)
  /-- The comments behind a position, without spaces before them. -/
  | closing (position : Nat)
  /-- The end of the line if comments lead a position. -/
  | lineIfLed (position : Nat)
  /-- A bracket if comments lead a position, and a space otherwise. -/
  | bracketIfLed (position : Nat)
  /-- The bracket that closes the last one opened so, if one was opened. -/
  | closeBracket
deriving DecidableEq, Repr, Inhabited

abbrev Pieces := List Piece

namespace Layout

def put (text : String) : Pieces := [.text text.toList]

def putIf (condition : Bool) (text : String) : Pieces :=
  if condition then put text else []

def separated (separator : Pieces) : List Pieces → Pieces
  | [] => []
  | [last] => last
  | first :: more => first ++ separator ++ separated separator more

/-- Pieces between others, none if there are no pieces. -/
def between (before : String) (inside : Pieces) (after : String) : Pieces :=
  if inside.isEmpty then [] else put before ++ inside ++ put after

/-- Pieces behind some text, none if there are no pieces. -/
def behind (before : String) (inside : Pieces) : Pieces :=
  between before inside ""

/-- Pieces on lines of their own, one level deeper. -/
def onLines (items : List Pieces) : Pieces :=
  [.line, .indent] ++ items.flatMap (· ++ [.line]) ++ [.dedent, .line]

/-! ## Parts with their pieces -/

/-- A part of a program with the pieces it is laid out as. -/
abbrev Part := Tree (Label × Pieces)

namespace Part

def kind (part : Part) : Kind := part.label.1.kind

def start (part : Part) : Nat := part.label.1.span.start

def stop (part : Part) : Nat := part.label.1.span.stop

def pieces (part : Part) : Pieces := part.label.2

def isPresent (part : Part) : Bool := part.kind ≠ .absent

def parts (part : Part) : List Part := part.children

def isBlock (part : Part) : Bool := part.kind = .block

/-- The pieces of a part where a value or a pattern is wanted, with the comments behind
it. -/
def value (part : Part) : Pieces :=
  if part.isPresent then part.pieces ++ [.trailing part.stop] else []

/-- The pieces of a part as an item of a row that ends at `stop`.  The comments behind the
item follow it, unless they stand behind the whole row. -/
def asItem (stop : Nat) (lay : Part → Pieces) (part : Part) : Pieces :=
  lay part ++ if part.isPresent && part.stop ≠ stop then [.closing part.stop] else []

/-- The parts in a row that ends at `stop`, laid out with a separator between them. -/
def joined (separator : Pieces) (stop : Nat) (lay : Part → Pieces) (parts : List Part) :
    Pieces :=
  separated separator (parts.map (asItem stop lay))

/-- The parts in a row that ends at `stop`, with commas between them. -/
def listed (stop : Nat) (lay : Part → Pieces) (parts : List Part) : Pieces :=
  joined (put ", ") stop lay parts

/-- The parts in a row that ends at `stop`, on lines of their own with commas between
them. -/
def listedOnLines (stop : Nat) (lay : Part → Pieces) (parts : List Part) : Pieces :=
  [.line, .indent] ++ joined (put "," ++ [.line]) stop lay parts ++ [.line, .dedent]

def statementEnd (part : Part) : Pieces :=
  match part.kind with
  | .declaredVariables .. => put ";"
  | _ => []

/-- The pieces of a part as a statement, which ends its line.  A block does not end
the line. -/
def asStatement (part : Part) : Pieces :=
  if part.isBlock then part.pieces
  else part.pieces ++ part.statementEnd ++ [.trailing part.stop, .line]

/-- The pieces of a part as an item of a module.  The comments behind a block are written
there as well. -/
def asModuleItem (part : Part) : Pieces :=
  if part.isBlock then part.value else part.asStatement

end Part

end Layout

end Syntax

end Relink
