import Relink.Path.Basic

/-!
# Program trees

A program is a tree of labelled nodes.  Some nodes are requests: they ask for
another module by a specifier, which stands in a slot of its own.  All that is
known about any other node is its label, so that one tree type serves for trees
that were parsed here and for trees that were read elsewhere.
-/

namespace Relink

/-- Where a piece of source text begins and ends. -/
structure Span where
  start : Nat
  stop : Nat
deriving DecidableEq, Repr, Inhabited

/-- A piece of a template literal.  The cooked text is missing where an escape has
no meaning. -/
structure Quasi where
  span : Span
  tail : Bool
  cooked : Option Text
  raw : Text
deriving DecidableEq, Repr, Inhabited

/-- What stands in the slot of a request: a string, with its source text unless it
was made, or a template without substitutions. -/
inductive Literal
  | string (span : Span) (value : Text) (raw : Option Text)
  | template (span : Span) (first : Quasi) (rest : List Quasi)
deriving DecidableEq, Repr, Inhabited

namespace Literal

/-- The span of the whole literal. -/
def span : Literal → Span
  | string span _ _ => span
  | template span _ _ => span

/-- The text the literal stands for. -/
def text : Literal → Text
  | string _ value _ => value
  | template _ first _ => first.cooked.getD first.raw

end Literal

/-- How a request asks for its module.  The argument of an import call may be
spread. -/
inductive Form
  | importDeclaration
  | exportNamed
  | exportAll
  | importCall (spread : Option Span)
deriving DecidableEq, Repr, Inhabited

/-- A program or a part of one. -/
inductive Tree (α : Type)
  | node (label : α) (children : List (Tree α))
  | request (form : Form) (label : α) (slot : Literal) (children : List (Tree α))
deriving BEq, Repr, Inhabited

/-- A request as it is met in a tree. -/
structure Request where
  form : Form
  slot : Literal
deriving DecidableEq, Repr, Inhabited

namespace Form

/-- The specifier of a request, none if the slot is spread. -/
def specifier? : Form → Literal → Option Text
  | importCall (some _), _ => none
  | _, slot => some slot.text

end Form

namespace Tree

variable {α : Type}

/-- The label at the top of a tree. -/
def label : Tree α → α
  | node label _ => label
  | request _ label _ _ => label

/-- The parts directly below the top of a tree. -/
def children : Tree α → List (Tree α)
  | node _ children => children
  | request _ _ _ children => children

mutual

/-- The requests of a tree in source order.  What stands in the attributes of a
declaration is not looked into. -/
def requests : Tree α → List Request
  | node _ children => requestsOfList children
  | request form _ slot children =>
      ⟨form, slot⟩ ::
        match form with
        | .importCall _ => requestsOfList children
        | _ => []

/-- The requests of trees in a row. -/
def requestsOfList : List (Tree α) → List Request
  | [] => []
  | tree :: rest => requests tree ++ requestsOfList rest

end

end Tree

/-- A file with the program it holds. -/
structure SourceFile (α : Type) where
  path : Path
  program : Tree α

end Relink
