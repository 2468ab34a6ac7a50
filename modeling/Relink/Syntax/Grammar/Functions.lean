import Relink.Syntax.Grammar.Types

/-!
# Functions

Signatures and bodies of functions.  In the body of a function the words `await` and
`yield` have the meaning the function gives them.
-/

namespace Relink

namespace Syntax

namespace Grammar

open Syntax.Parser

/-! ## Bodies -/

def block [Nested] : Parser Program := do
  let start ← start
  mark "\x7b"
  let items ← enclosed (itemsUntil "\x7d" (nested (.item false)))
  node start .block items

/-- The source text of a statement that is a string. -/
def directive? : Program → Option Text
  | .node ⟨.expressionStatement, _⟩ [.node ⟨.literal raw, _⟩ _] =>
      if raw.head? = some '"' ∨ raw.head? = some '\'' then some raw else none
  | _ => none

def asksForStrictness (body : Program) : Bool :=
  ((body.children.map directive?).takeWhile Option.isSome).any fun raw =>
    raw = some "'use strict'".toList || raw = some "\"use strict\"".toList

def arePlainNames (items : Program) : Bool :=
  items.children.all fun item => item.label.kind matches .binding ..

/-- The block of a function, which may ask to be strict only if the parameters are plain
names. -/
def bodyBlock [Nested] (plain async generator : Bool) (items : Program) : Parser Program := do
  let body ← within (·.body plain async generator) block
  check (arePlainNames items || !asksForStrictness body)
  pure body

/-- The body of a function.  What is only described has none. -/
def functionBody [Nested] (async generator : Bool) (items : Program) : Parser Program := do
  let body ← bodyBlock true async generator items
  check (!(← context).ambient)
  pure body

/-- The body of a function that may be declared without one, if it has no default
values. -/
def functionBody? [Nested] (async generator : Bool) (items : Program) : Parser Program := do
  if ← atMark "\x7b" then
    functionBody async generator items
  else
    semicolon
    check (items.children.all fun item => item.label.kind ≠ .defaulted)
    pure absent

/-! ## Functions by word -/

def functionParameters [Nested] (async generator : Bool) (item : Parser Program) :
    Parser Program :=
  within (·.parameters async generator) (bracketed item)

/-- A function behind its name: the type parameters, the parameters, the type of the
result and the body, which may miss. -/
def functionRest [Nested] (async generator : Bool) (item : Parser Program) :
    Parser (List Program) := do
  let generics ← typeParameters? false true
  let items ← functionParameters async generator item
  let result ← resultType
  let body ← functionBody? async generator items
  pure [generics, items, result, body]

/-- The body at the end of the parts of a function. -/
def bodyOf (parts : List Program) : Program := parts.getLastD absent

/-- Whether a function stands at the cursor with the word for an asynchronous one in
front. -/
def atAsyncFunction : Parser Bool := do
  if ← atWord "async" then wordFollows "function" else pure false

/-- Passes the word for an asynchronous function. -/
def eatAsync : Parser Bool := do
  let async ← atAsyncFunction
  if async then advance
  pure async

def optionalName : Parser Program := do
  orAbsent (isFreeWord (← token) || (← atWord "this")) boundName

def functionExpression [Nested] : Parser Program := do
  let start ← start
  let async ← eatAsync
  word "function"
  let generator ← eatMark "*"
  let name ← within (fun context => { context with inAsync := async, inGenerator := generator })
    optionalName
  let parts ← functionRest async generator parameter
  require ((bodyOf parts).label.kind ≠ .absent)
  node start (.functionExpression async generator) (name :: parts)

/-- A function as a declaration.  The name may miss behind `export default`. -/
def functionDeclaration [Nested] (start : Nat) (declare named : Bool) : Parser Program := do
  let async ← eatAsync
  word "function"
  let generator ← eatMark "*"
  let name ← if named then boundName else optionalName
  let parts ← functionRest async generator parameter
  node start (.functionDeclaration async generator declare) (name :: parts)

end Grammar

end Syntax

end Relink
