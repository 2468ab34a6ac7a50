import Relink.Syntax.Grammar.Functions
import Relink.Syntax.Grammar.Targets

/-!
# Arrow functions

An arrow function may only begin where a whole assignment begins.  Its parameters are
read as values first, unless type parameters stand before them.
-/

namespace Relink

namespace Syntax

namespace Grammar

open Syntax.Parser

/-- Whether a value is an arrow function, behind which no operator may follow. -/
def isArrow (value : Program) : Bool := value.label.kind matches .arrow _

/-- Whether an arrow function may begin at a position. -/
def mayBeginArrow (start : Nat) : Parser Bool := do
  pure ((← get).arrowStart = some start)

/-- Lets an arrow function begin at a position. -/
def allowArrow (start : Nat) : Parser Unit :=
  modify fun cursor => { cursor with arrowStart := some start }

mutual

/-- Whether a pattern binds only names that can be bound. -/
def bindsWell : Program → Bool
  | .node ⟨kind, _⟩ children =>
      match kind, children with
      | .binding name _, _ => !isUnbindable name
      | .arrayPattern _, [.node ⟨.list, _⟩ parts, _] => allBindWell parts
      | .objectPattern _, [.node ⟨.list, _⟩ parts, _] => allBindWell parts
      | .rest, inside :: _ => bindsWell inside
      | .defaulted, left :: _ => bindsWell left
      | .patternEntry, [_, value] => bindsWell value
      | _, _ => true
  | .request .. => true

/-- Whether patterns in a row bind only names that can be bound. -/
def allBindWell : List Program → Bool
  | [] => true
  | part :: more => bindsWell part && allBindWell more

end

/-- The body of an arrow function: a block or a value. -/
def arrowBody [Nested] (async : Bool) (items : Program) : Parser Program := do
  if ← atMark "\x7b" then
    bodyBlock false async false items
  else
    within (·.body false async false) (nested .assignment)

def arrowRest [Nested] (start : Nat) (async : Bool) (generics items result : Program) :
    Parser Program := do
  check (allBindWell items.children)
  let body ← arrowBody async items
  node start (.arrow async) [generics, items, result, body]

/-- An arrow function with a single name for its parameters, behind the name. -/
def namedArrow [Nested] (start : Nat) (async : Bool) (text : Text) (span : Span) :
    Parser Program := do
  mark "=>"
  arrowRest start async absent (row [.node ⟨.binding text false, span⟩ [absent]]) absent

/-- An asynchronous arrow function with type parameters. -/
def genericAsyncArrow [Nested] : Parser Program := do
  let start ← start
  word "async"
  let generics ← typeParameters false true
  let items ← bracketed parameter
  let result ← resultType
  mark "=>"
  arrowRest start true generics items result

end Grammar

end Syntax

end Relink
