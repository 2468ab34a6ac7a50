import Relink.Syntax.Grammar.Expressions

/-!
# Brackets

What an opening bracket begins where a value stands: a value in brackets, the
parameters of an arrow function, or the arguments of a call of `async`.  Which of them
it is shows only behind the closing bracket, so that its items are read as values, apart
from those with a type or a question mark, which can only be parameters.
-/

namespace Relink

namespace Syntax

namespace Grammar

open Syntax.Parser

/-- An item between brackets: a value, which may be spread, or a parameter. -/
inductive BracketItem
  | value (part : Program)
  | parameter (part : Program)

/-- Items between brackets, and whether a comma stands behind the last. -/
structure BracketItems where
  items : List BracketItem
  trailingComma : Bool

def BracketItem.isParameter : BracketItem → Bool
  | parameter _ => true
  | value _ => false

/-- The value of an item, and whether it is spread. -/
def unspread (part : Program) : Bool × Program :=
  match part with
  | .node ⟨.spread, _⟩ [inside] => (true, inside)
  | part => (false, part)

/-! ## Items -/

/-- The value of an item.  Behind a name a question mark may follow that belongs to no
condition. -/
def itemValue [Nested] : Parser Program := do
  let start ← start
  if isFreeWord (← token) then
    let value ← binary 0
    assigned value
  else if (← atMark "...") && isFreeWord (← nextToken) then
    advance
    let value ← withIn (binary 0)
    node start .spread [value]
  else
    argument

/-- Whether the question mark at the cursor says that a parameter may miss. -/
def atOptionalMark : Parser Bool := do
  if ← atMark "?" then
    match (← nextToken).shape with
    | .mark text => pure ([",", ":", ")", "="].contains text)
    | _ => pure false
  else
    pure false

/-- The parameter that a value was, with the type and the default value behind it. -/
def itemParameter [Nested] (start : Nat) (part : Program) (optional : Bool) :
    Parser Program := do
  let (spread, value) := unspread part
  check (!(optional && spread))
  require (!optional || value.label.kind matches .reference _)
  let found ← Target.ofExpression .binding value
  let found := retyped found optional absent found.label.span
  let found ← if spread then node start .rest [found, absent] else pure found
  let isDefault := found.label.kind = .defaulted
  let type ← if isDefault then pure absent else ascription
  let stop := (← get).lastStop
  let span := if type.label.kind = .absent then found.label.span else ⟨start, stop⟩
  let found := if isDefault then found
    else retyped found optional type span
  if ← eatMark "=" then
    let right ← nested .assignment
    node start .defaulted [found, right]
  else
    pure found

def bracketItem [Nested] : Parser BracketItem := do
  allowArrow (← start)
  let modified ← misplacedModifier
  let start ← start
  let part ← itemValue
  let spread := (unspread part).1
  let optional ← atOptionalMark
  if optional then advance
  let part ← if !optional && !spread && (← atMark "?") then branches start part else pure part
  check (!modified)
  if optional || (← atMark ":") then
    .parameter <$> itemParameter start part optional
  else
    pure (.value part)

/-! ## Parameters -/

/-- The parameters that items turn out to be. -/
def parametersOf (items : BracketItems) : Parser Program := do
  row <$> parametersFrom items.items
where
  parametersFrom : List BracketItem → Parser (List Program)
    | [] => pure []
    | item :: more => do
        let isLast := more.isEmpty
        let found ←
          match item with
          | .parameter part => do
              check (!isRest part || (isLast && !items.trailingComma))
              pure part
          | .value part => do
              let (spread, value) := unspread part
              check (!spread || (isLast && !items.trailingComma && !Target.isDefault value))
              let found ← Target.ofExpression .binding value
              if spread then
                pure (.node ⟨.rest, value.label.span⟩ [found, absent])
              else
                pure found
        let more ← parametersFrom more
        pure (found :: more)

/-- An item that is the only one and a name, behind which an arrow stands on a new line.
The arrow function that it makes follows it as an item of its own. -/
def lateArrow [Nested] (start : Nat) (items : List BracketItem) :
    Parser (List BracketItem) := do
  if ← atMark "=>" then
    let isName :=
      match items with
      | [.value part] => (part.label.kind matches .reference _)
      | [.parameter part] => (part.label.kind matches .binding ..)
      | _ => false
    require isName
    advance
    let parameters ← parametersOf ⟨items, false⟩
    let arrow ← arrowRest start false absent parameters absent
    pure (items ++ [.value arrow])
  else
    pure items

def bracketItems [Nested] : Parser BracketItems := do
  mark "("
  let found ← enclosed (loop (BracketItems.mk [] false) fun found => do
    if ← atMark ")" then
      pure (.inr found)
    else
      let start ← start
      let item ← bracketItem
      let items ← lateArrow start (found.items ++ [item])
      if ← atMark ")" then
        pure (.inr ⟨items, false⟩)
      else
        mark ","
        pure (.inl ⟨items, ← atMark ")"⟩))
  mark ")"
  pure found

/-! ## The whole -/

/-- An arrow function with the type of its result, where a colon may also belong to a
condition.  It is one only if the colon of the condition follows. -/
def conditionalArrow [Nested] (start : Nat) (async : Bool) (items : BracketItems) :
    Parser Program := do
  let result ← resultBehind ":"
  mark "=>"
  let parameters ← parametersOf items
  let arrow ← arrowRest start async absent parameters result
  require (← atMark ":")
  pure arrow

/-- The type of the result in front of an arrow. -/
def arrowResult [Nested] : Parser Program := do
  let result ← resultBehind ":"
  require (← atMark "=>")
  pure result

/-- Whether a value is an object with a default value behind a name. -/
def hasDirectCover (value : Program) : Bool :=
  value.label.kind = .object &&
    value.children.any fun property => property.label.kind = .coverInitializer

/-- Items that are no parameters, as the values they are. -/
def valuesOf : List BracketItem → Parser (List Program)
  | [] => pure []
  | .parameter _ :: _ => failure
  | .value part :: more => do
      check (!hasDirectCover (unspread part).2)
      let more ← valuesOf more
      pure (part :: more)

/-- Values between brackets, which are not spread. -/
def grouped (start : Nat) (values : List Program) : Parser Program := do
  require (!values.any fun value => (unspread value).1)
  match values with
  | [] => failure
  | [value] => node start .parenthesized [value]
  | first :: _ =>
      let last := values.getLastD first
      let span : Span := ⟨first.label.span.start, last.label.span.stop⟩
      node start .parenthesized [.node ⟨.sequence, span⟩ values]

/-- What an opening bracket begins.  The word for asynchronous functions may stand before
it. -/
def brackets [Nested] (async : Option Nat) : Parser Program := do
  let opening ← start
  let start := async.getD opening
  let arrow ← mayBeginArrow start
  let isAsync := async.isSome
  let items ← bracketItems
  let context ← context
  let pending := context.colonPending && (← atMark ":")
  match ← if pending && context.inCondition then
      attempt (conditionalArrow start isAsync items) else pure none with
  | some value => pure value
  | none =>
      let typed := !context.colonPending && (← atMark ":")
      let result ← if typed then attempt arrowResult else pure none
      if items.items.any BracketItem.isParameter || result.isSome || (← atMark "=>") then
        require (arrow && !(← onNewLine))
        mark "=>"
        let parameters ← parametersOf items
        arrowRest start isAsync absent parameters (result.getD absent)
      else
        let values ← valuesOf items.items
        match async with
        | some _ =>
            let callee := .node ⟨.reference "async".toList, ⟨start, start + 5⟩⟩ []
            node start (.call .plain) [callee, absent, row values]
        | none => grouped start values

end Grammar

end Syntax

end Relink
