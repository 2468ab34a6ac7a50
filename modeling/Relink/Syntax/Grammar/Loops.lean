import Relink.Syntax.Grammar.Declarations

/-!
# Loops

Loops with a condition, with three parts, and over values or names.
-/

namespace Relink

namespace Syntax

namespace Grammar

open Syntax.Parser

def condition [Nested] : Parser Program := do
  mark "("
  let test ← enclosed (nested .expression)
  mark ")"
  pure test

def loopBody [Nested] : Parser Program :=
  within (fun context => { context with breakable := true, continuable := true })
    (nested .statement)

def whileStatement [Nested] (start : Nat) : Parser Program := do
  word "while"
  let test ← condition
  let body ← loopBody
  node start .whileLoop [test, body]

def doStatement [Nested] (start : Nat) : Parser Program := do
  word "do"
  let body ← loopBody
  word "while"
  let test ← condition
  let _ ← eatMark ";"
  node start .doWhile [body, test]

/-! ## Heads -/

/-- What stands between the brackets of a loop, apart from the variables in front. -/
inductive LoopHead
  | parts (first test step : Program)
  | over (values : Program)
  | through (object : Program)

/-- The head of a loop with three parts, behind the first. -/
def headParts [Nested] (first : Program) : Parser LoopHead := do
  mark ";"
  let test ← orAbsent (!(← atMark ";")) (enclosed (nested .expression))
  mark ";"
  let step ← orAbsent (!(← atMark ")")) (enclosed (nested .expression))
  pure (.parts first test step)

/-- The values that a loop runs over, or the object whose names it runs through. -/
def headRange [Nested] : Parser LoopHead := do
  if ← eatWord "of" then
    .over <$> enclosed (nested .assignment)
  else
    word "in"
    .through <$> enclosed (nested .expression)

/-- Whether variables may be set by a loop: a single one without a type or a value. -/
def areLoopTargets (declarators : List Program) : Bool :=
  match declarators with
  | [declarator] =>
      match declarator.children with
      | [target, value] =>
          value.label.kind = .absent &&
            !target.children.any fun part => part.label.kind = .ascription
      | _ => true
  | _ => false

/-- The head of a loop that begins with variables, and the variables. -/
def variableHead [Nested] : Parser (Program × LoopHead) := do
  let found ← variableRow (← start) true false
  if ← atWords ["of", "in"] then
    check (areLoopTargets found.children)
    pure (found, ← headRange)
  else
    pure (found, ← headParts found)

/-- Whether the variable at the cursor is disposed of after each round, by the value in
front of it. -/
def atLoopResource (value : Program) : Parser (Option Bool) := do
  let awaited := match value with
    | .node ⟨.reference name, _⟩ _ => if name = "using".toList then some false else none
    | .node ⟨.awaited, _⟩ [.node ⟨.reference name, _⟩ _] =>
        if name = "using".toList then some true else none
    | _ => none
  let next ← nextToken
  if !(← atWord "of") && (isWord next "of" || isWord next "in") then pure awaited
  else pure none

/-- The target of a loop that a value turns out to be, and the head behind it. -/
def targetHead [Nested] (value : Program) : Parser (Program × LoopHead) := do
  let target ← Target.ofExpression .target value
  let takesApart := target.label.kind matches .arrayPattern _ | .objectPattern _
  check (!(takesApart && (← atWord "in")))
  pure (target, ← headRange)

/-- The head of a loop that begins with a value, and the target that the value may turn
out to be. -/
def valueHead [Nested] (awaited : Bool) : Parser (Program × LoopHead) := do
  let start ← start
  let value ← within (fun context => { context with withoutIn := true }) (nested .expression)
  match ← atLoopResource value with
  | some awaited => do
      let name ← boundWord
      let nameStart ← Parser.start
      advance
      let target ← node nameStart (.binding name false) [absent]
      let part ← node start .declarator [target, absent]
      let part ← node start (.resources awaited) [part]
      check (← atWord "of")
      pure (part, ← headRange)
  | none =>
      if ← atWords ["of", "in"] then
        let isAsync := value.label.kind = .reference "async".toList
        check (awaited || !isAsync || !(← atWord "of"))
        targetHead value
      else do
        check (!Target.hasCover value)
        pure (value, ← headParts value)

/-- Whether the word `let` at the cursor declares variables. -/
def atLetVariables : Parser Bool := do
  if ← atWord "let" then
    match (← nextToken).shape with
    | .word text => pure (!isFixedWord text || isOneOf ["await", "let", "yield"] text)
    | .mark text => pure (text = "[" || text = "\x7b")
    | _ => pure false
  else
    pure false

def forStatement [Nested] (start : Nat) : Parser Program := do
  word "for"
  let awaited ← eatWord "await"
  mark "("
  let (target, head) ←
    if ← atMark ";" then do
      pure (absent, ← headParts absent)
    else if (← atWords ["var", "const"]) || (← atLetVariables) then variableHead
    else valueHead awaited
  mark ")"
  let body ← loopBody
  match head with
  | .over values => node start (.forOf awaited) [target, values, body]
  | .through object => do
      require (!awaited)
      node start .forIn [target, object, body]
  | .parts first test step => do
      require (!awaited)
      node start .forLoop [first, test, step, body]

end Grammar

end Syntax

end Relink
