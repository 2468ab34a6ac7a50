import Relink.Syntax.Grammar.Cursor

/-!
# Targets

What may stand on the left of an assignment, and the patterns that expressions turn
out to be.  Literals of lists and objects are read as expressions first, and taken as
patterns when an assignment or an arrow follows.
-/

namespace Relink

namespace Syntax

namespace Target

open Syntax.Parser

/-- Whether a value is a chain that may end early. -/
def isChain : Program → Bool
  | .node ⟨kind, _⟩ children =>
      match kind, children with
      | .member link, _ | .index link, _ | .call link, _ => link ≠ .plain
      | .nonNull, [inside] => isChain inside
      | _, _ => false
  | _ => false

/-- Whether a value can be assigned to as it is. -/
def isSimple : Program → Bool
  | .node ⟨kind, _⟩ children =>
      match kind, children with
      | .reference name, _ => name ≠ "eval".toList && name ≠ "arguments".toList
      | .member link, _ | .index link, _ => link = .plain
      | .parenthesized, [inside] | .nonNull, [inside] => isSimple inside
      | .typed _, inside :: _ => isSimple inside
      | .assertion, [_, inside] => isSimple inside
      | _, _ => false
  | _ => false

/-- Whether an assignment to a value is refused for what the value is.  The rest that is
no target is not looked at. -/
def isRefused (callsRefused : Bool) : Program → Bool
  | .node ⟨kind, _⟩ children =>
      match kind, children with
      | .literal _, _ | .number _, _ | .binary _, _ => false
      | .call link, _ => link ≠ .plain || callsRefused
      | .importCall _, _ => callsRefused
      | .parenthesized, [inside] => isRefused callsRefused inside
      | _, _ => true
  | .request .. => callsRefused

/-- Whether an assignment has room for a value on its left, whatever the value is
worth. -/
def isPlace (value : Program) : Bool :=
  match value.label.kind with
  | .reference _ | .member _ | .index _ | .parenthesized | .nonNull | .assertion
  | .instantiation => true
  | .call link => link ≠ .plain
  | .typed word => word ≠ "as const"
  | _ => false

/-- Refuses a value that cannot be assigned to. -/
def checkSimple (callsRefused : Bool) (value : Program) : Parser Unit :=
  check (isSimple value || !isRefused callsRefused value)

/-- What an expression is turned into: a target, an element of one, or a pattern that
binds names. -/
inductive Role
  | target
  | element
  | binding
deriving DecidableEq, Repr

/-- The role of what stands in a list or an object. -/
def Role.inner : Role → Role
  | .binding => .binding
  | _ => .element

/-- Whether an element of a target may be a value of a kind. -/
def isElement : Kind → Bool
  | .member _ | .index _ | .call _ | .newCall | .literal _ | .number _ | .reference _
  | .functionExpression .. | .classExpression | .parenthesized | .template _ => true
  | .typed word => word = "as"
  | _ => false

/-- A value that is no list, object or default, in a role. -/
def ofValue (role : Role) (value : Program) : Parser Program := do
  match role with
  | .target => checkSimple true value
  | .element => do
      require (isElement value.label.kind)
      check (isSimple value)
  | .binding => require (value.label.kind matches .reference _)
  match value with
  | .node ⟨.reference name, span⟩ _ => pure (.node ⟨.binding name false, span⟩ [absent])
  | other => pure other

/-- Whether a value is a default value of a pattern. -/
def isDefault (value : Program) : Bool :=
  match value.label.kind with
  | .defaulted => true
  | .assign operator => operator = "="
  | _ => false

/-- The list without the values left out at its end. -/
def withoutLastHoles (parts : List Program) : List Program :=
  (parts.reverse.dropWhile fun part => part.label.kind = .absent).reverse

mutual

/-- The pattern that an expression turns out to be. -/
def recast (commas : List Nat) (role : Role) : Program → Parser Program
  | .node ⟨kind, span⟩ children =>
      match kind, children with
      | .array, elements => do
          let listed := withoutLastHoles elements
          let last := listed.length = elements.length && !commas.contains span.start
          let elements ← recastElements commas role.inner last listed.length elements
          pure (.node ⟨.arrayPattern false, span⟩ [row elements, absent])
      | .object, properties => do
          let entries ← recastEntries commas role.inner (commas.contains span.start) properties
          pure (.node ⟨.objectPattern false, span⟩ [row entries, absent])
      | .assign operator, [left, right] =>
          if operator = "=" ∧ role ≠ .target then
            pure (.node ⟨.defaulted, span⟩ [left, right])
          else
            ofValue role (.node ⟨kind, span⟩ [left, right])
      | kind, children => ofValue role (.node ⟨kind, span⟩ children)
  | other => ofValue role other

/-- The elements of a list pattern that some expressions turn out to be.  `last` says
that the last of them may be the rest, and `count` tells how many are kept. -/
def recastElements (commas : List Nat) (role : Role) (last : Bool) :
    (count : Nat) → List Program → Parser (List Program)
  | 0, _ | _, [] => pure []
  | count + 1, .node ⟨kind, span⟩ children :: more => do
      match kind, children with
      | .absent, _ => do
          let more ← recastElements commas role last count more
          pure (absent :: more)
      | .spread, [inside] =>
          if count = 0 ∧ last then do
            check (!isDefault inside)
            let innerSpan := inside.label.span
            let inside ← recast commas role inside
            pure [.node ⟨.rest, innerSpan⟩ [inside, absent]]
          else do
            check false
            recastElements commas role last count more
      | kind, children => do
          let element ← recast commas role (.node ⟨kind, span⟩ children)
          let more ← recastElements commas role last count more
          pure (element :: more)
  | count + 1, other :: more => do
      let element ← recast commas role other
      let more ← recastElements commas role last count more
      pure (element :: more)

/-- The entries of an object pattern that some properties turn out to be. -/
def recastEntries (commas : List Nat) (role : Role) (comma : Bool) :
    List Program → Parser (List Program)
  | [] => pure []
  | .node ⟨kind, span⟩ children :: more => do
      let entry ←
        match kind, children with
        | .reference name, _ => do
            check (name ≠ "eval".toList && name ≠ "arguments".toList)
            pure (.node ⟨.patternShorthand, span⟩ [.node ⟨.name name, span⟩ [], absent])
        | .keyValue, [key, value] => do
            let value ← recast commas role value
            pure (.node ⟨.patternEntry, span⟩ [key, value])
        | .coverInitializer, [key, value] =>
            pure (.node ⟨.patternShorthand, span⟩ [key, value])
        | .spread, [inside] => do
            check (more.isEmpty && !comma)
            check (role ≠ .binding || inside.label.kind matches .reference _)
            let inside ← recast commas role inside
            check (inside.label.kind ≠ .defaulted)
            pure (.node ⟨.rest, span⟩ [inside, absent])
        | _, _ => failure
      let more ← recastEntries commas role comma more
      pure (entry :: more)
  | .request .. :: _ => failure

end

/-- The pattern that an expression turns out to be in a role. -/
def ofExpression (role : Role) (value : Program) : Parser Program := do
  recast (← get).trailingCommas role value

mutual

/-- Whether a default value stands in an object that is no pattern.  What functions
hold is not looked at. -/
def hasCover : Program → Bool
  | .node ⟨kind, _⟩ children =>
      match kind with
      | .coverInitializer => true
      | .functionExpression .. | .arrow _ => false
      | _ => anyHasCover children
  | .request _ _ _ children => anyHasCover children

/-- Whether a default value stands in an object among trees in a row. -/
def anyHasCover : List Program → Bool
  | [] => false
  | tree :: more => hasCover tree || anyHasCover more

end

end Target

end Syntax

end Relink
