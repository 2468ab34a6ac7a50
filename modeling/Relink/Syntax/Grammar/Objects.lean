import Relink.Syntax.Grammar.Classes

/-!
# Object literals

The properties of object literals.  A default value may stand behind a name, since the
object may turn out to be a pattern.
-/

namespace Relink

namespace Syntax

namespace Grammar

open Syntax.Parser

/-- A method of an object literal behind its name. -/
def objectMethod [Nested] (start : Nat) (async generator : Bool) (name : Program) :
    Parser Program := do
  let parts ← functionRest async generator parameter
  node start (.objectMethod async generator) (name :: parts)

/-- An accessor of an object literal behind its word. -/
def objectAccessor [Nested] (start : Nat) (word : String) : Parser Program := do
  let name ← key
  let parts ← functionRest false false parameter
  let items := parts.getD 1 absent
  check (accessorFits (some word) items)
  node start (.objectAccessor word) [name, items, bodyOf parts]

/-- A property of an object literal behind a word that is no name with a value of its
own. -/
def shorthand [Nested] (start : Nat) (modified : Bool) (text : Text) (name : Program) :
    Parser Program := do
  check (!(← eatMark "?"))
  if ← atMark "=" then
    let value ← defaultValue
    node start .coverInitializer [name, value]
  else if ← atMarks [",", "\x7d"] then
    pure (.node ⟨.reference text, name.label.span⟩ [])
  else
    check (!modified)
    match String.ofList text with
    | "get" => objectAccessor start "get"
    | "set" => objectAccessor start "set"
    | "async" => do
        let generator ← eatMark "*"
        let name ← key
        objectMethod start true generator name
    | _ => failure

def objectProperty [Nested] : Parser Program := do
  let start ← start
  if ← eatMark "..." then
    let value ← withIn (nested .assignment)
    node start .spread [value]
  else if ← eatMark "*" then
    let name ← key
    objectMethod start false true name
  else
    let modified ← misplacedModifier
    let here ← token
    let name ← key
    if ← eatMark ":" then
      let value ← withIn (nested .assignment)
      node start .keyValue [name, value]
    else if ← atMethod then
      objectMethod start false false name
    else
      match here.shape with
      | .word text => shorthand start modified text name
      | _ => failure

def objectLiteral [Nested] : Parser Program := do
  let start ← start
  mark "\x7b"
  let properties ← enclosed (itemsBefore "\x7d" do
    let property ← objectProperty
    if !(← atMark "\x7d") then
      mark ","
      if ← atMark "\x7d" then
        modify fun cursor => { cursor with trailingCommas := start :: cursor.trailingCommas }
    pure property)
  mark "\x7d"
  node start .object properties

end Grammar

end Syntax

end Relink
