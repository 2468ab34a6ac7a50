import Relink.Resolution.Resolve
import Relink.Tree

/-!
# Rewriting requests

Each request with a relative specifier that resolves is made to ask for the file it
resolves to, by the relative path to it.  Nothing else of the tree is changed: the
new literal keeps the span of the old one, and a request whose specifier is already
right stays as it was written.  The parts of a replaced request are not looked into.
-/

namespace Relink

/-- What is needed to resolve the requests of a compilation. -/
structure Compilation where
  options : Options
  host : Host

namespace Compilation

/-- The specifier to write instead of `specifier` in the file `file`, none if it is
to stay. -/
def replacement? (compilation : Compilation) (file : Path) (specifier : Text) :
    Traced (Option Text) :=
  if Specifier.isRelative specifier then do
    match ← Resolution.resolve compilation.host compilation.options file specifier with
    | none => pure none
    | some found =>
        let written := Specifier.toFile file found.path
        if written = specifier then pure none
        else do
          .record (.rewritten file specifier written found.extension.text)
          pure (some written)
  else
    pure none

/-- The literal to put into the slot of a request, none if it is to stay. -/
def newSlot? (compilation : Compilation) (file : Path) (form : Form) (slot : Literal) :
    Traced (Option Literal) :=
  match form.specifier? slot with
  | none => pure none
  | some specifier => do
      let written ← compilation.replacement? file specifier
      pure (written.map fun text => .string slot.span text none)

variable {α : Type}

mutual

/-- The tree with the requests of the file `file` rewritten. -/
def rewrite (compilation : Compilation) (file : Path) : Tree α → Traced (Tree α)
  | .node label children => do
      pure (.node label (← compilation.rewriteList file children))
  | .request form label slot children => do
      match ← compilation.newSlot? file form slot with
      | some literal => pure (.request form label literal children)
      | none => pure (.request form label slot (← compilation.rewriteList file children))

/-- Trees in a row with the requests of the file `file` rewritten. -/
def rewriteList (compilation : Compilation) (file : Path) :
    List (Tree α) → Traced (List (Tree α))
  | [] => pure []
  | tree :: rest => do
      let first ← compilation.rewrite file tree
      let others ← compilation.rewriteList file rest
      pure (first :: others)

end

/-- The source file with its requests rewritten. -/
def rewriteFile (compilation : Compilation) (source : SourceFile α) :
    Traced (SourceFile α) := do
  pure ⟨source.path, ← compilation.rewrite source.path source.program⟩

end Compilation

end Relink
