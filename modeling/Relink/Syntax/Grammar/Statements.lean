import Relink.Syntax.Grammar.Expressions
import Relink.Syntax.Grammar.Loops

/-!
# Statements

Branches, jumps, labels and expressions as statements.  A word that may be a name begins
a declaration only if no more of an expression follows it.
-/

namespace Relink

namespace Syntax

namespace Grammar

open Syntax.Parser

/-! ## Branches -/

def ifStatement [Nested] (start : Nat) : Parser Program := do
  word "if"
  let test ← condition
  let yes ← nested .statement
  let no ← orAbsent (← eatWord "else") (nested .statement)
  node start .ifElse [test, yes, no]

def switchCase [Nested] : Parser Program := do
  let start ← start
  let test ←
    if ← eatWord "case" then nested .expression
    else do
      word "default"
      pure absent
  mark ":"
  let body ← gather do
    if (← atWords ["case", "default"]) || (← atMark "\x7d") then pure none
    else some <$> nested (.item false)
  node start .switchCase [test, row body]

/-- Whether a case stands for all other values. -/
def isDefaultCase (part : Program) : Bool :=
  part.children.head?.any fun test => test.label.kind = .absent

def switchStatement [Nested] (start : Nat) : Parser Program := do
  word "switch"
  let value ← condition
  mark "\x7b"
  let cases ← within (fun context => { context with breakable := true })
    (enclosed (itemsUntil "\x7d" switchCase))
  require ((cases.filter isDefaultCase).length ≤ 1)
  node start .switchOver [value, row cases]

/-- The part of a block with caught errors that deals with them. -/
def catchClause [Nested] : Parser Program := do
  let start ← start
  word "catch"
  let caught ←
    if ← eatMark "(" then do
      let caught ← enclosed typedPattern
      mark ")"
      pure caught
    else
      pure absent
  let body ← block
  node start .catchClause [caught, body]

def tryStatement [Nested] (start : Nat) : Parser Program := do
  word "try"
  let body ← block
  let handler ← orAbsent (← atWord "catch") catchClause
  let final ← orAbsent (← eatWord "finally") block
  check (handler.label.kind ≠ .absent || final.label.kind ≠ .absent)
  node start .tryCatch [body, handler, final]

/-! ## Jumps and labels -/

def returnStatement [Nested] (start : Nat) : Parser Program := do
  word "return"
  let value ← orAbsent (!(← atEnd)) (nested .expression)
  semicolon
  check (← context).inFunction
  node start (.leave "return") [value]

def throwStatement [Nested] (start : Nat) : Parser Program := do
  word "throw"
  require (!(← onNewLine))
  let value ← nested .expression
  semicolon
  node start (.leave "throw") [value]

/-- A jump out of a statement or to the next round of a loop. -/
def jump (start : Nat) (word : String) : Parser Program := do
  advance
  let context ← context
  check (word = "break" || context.continuable)
  if ← atEnd then
    semicolon
    check context.breakable
    node start (.leave word) [absent]
  else
    let text ← ownWord
    check (context.labels.contains text)
    let label ← leaf (.name text)
    semicolon
    node start (.leave word) [label]

/-- A statement with a label, behind the colon. -/
def labeled [Nested] (start : Nat) (text : Text) (span : Span) : Parser Program := do
  check (!(← context).labels.contains text)
  let body ← within
    (fun context => { context with labels := text :: context.labels, breakable := true })
    (nested .statement)
  node start .labeled [.node ⟨.name text, span⟩ [], body]

/-! ## Expressions as statements -/

/-- What a word begins that is read as a value and stands alone. -/
def wordBegins [Nested] (start : Nat) (text : Text) (value : Program) : Parser Program := do
  if ← eatMark ":" then
    labeled start text value.label.span
  else if text = "interface".toList && (← onNewLine) then
    check false
    semicolon
    node start .expressionStatement [value]
  else
    let found ←
      match String.ofList text with
      | "declare" => description? start
      | "global" =>
          if ← atMark "\x7b" then some <$> globalScope start false else pure none
      | word => wordedDeclaration? start word false false
    match found with
    | some declaration => pure declaration
    | none => do
        semicolon
        node start .expressionStatement [value]

/-- An expression as a statement, or a declaration that begins like one. -/
def expressionStatement [Nested] (start : Nat) : Parser Program := do
  let value ← withIn (nested .expression)
  match value.label.kind with
  | .reference text => wordBegins start text value
  | _ => do
      check (!Target.hasCover value)
      semicolon
      node start .expressionStatement [value]

/-- A value of the word `import` as a statement. -/
def importStatement [Nested] (start : Nat) : Parser Program := do
  require ((← markFollows "(") || (← markFollows "."))
  let value ← withIn (nested .expression)
  let _ ← attempt semicolon
  node start .expressionStatement [value]

/-- Whether a name stands behind the word at the cursor, on its line. -/
def nameFollows : Parser Bool := do
  let next ← nextToken
  pure (!next.onNewLine && isFreeWord next)

/-- What the words for waiting and for variables that are disposed of begin. -/
def awaitedResources [Nested] (start : Nat) : Parser Program := do
  word "await"
  if ← nameFollows then
    word "using"
    resources start true
  else
    let inside ← nested .unary
    let first ← node start .awaited [inside]
    let value ← operands 0 first
    let _ ← attempt semicolon
    node start .expressionStatement [value]

/-! ## Statements -/

/-- A statement that a word begins.  `declares` says that names may be declared there. -/
def wordStatement [Nested] (start : Nat) (declares : Bool) (text : Text) : Parser Program := do
  let next ← nextToken
  let namesType := isAnyWord next && !next.onNewLine
  match String.ofList text with
  | "import" => importStatement start
  | "if" => ifStatement start
  | "for" => forStatement start
  | "while" => whileStatement start
  | "do" => doStatement start
  | "switch" => switchStatement start
  | "try" => tryStatement start
  | "return" => returnStatement start
  | "throw" => throwStatement start
  | "break" => jump start "break"
  | "continue" => jump start "continue"
  | "debugger" => do
      advance
      semicolon
      node start (.leave "debugger") [absent]
  | "function" => do
      check declares
      functionDeclaration start false true
  | "class" => do
      check declares
      classDeclaration start false false true
  | "const" =>
      if isWord next "enum" then constantEnum start false
      else do
        require declares
        variableStatement start false
  | "var" => variableStatement start false
  | "let" =>
      if declares && (← atLetVariables) then variableStatement start false
      else expressionStatement start
  | "using" =>
      if declares && (← nameFollows) then do
        advance
        resources start false
      else expressionStatement start
  | "await" =>
      if declares && isWord next "using" then awaitedResources start
      else expressionStatement start
  | "interface" =>
      if namesType then do
        advance
        interfaceDeclaration start false
      else expressionStatement start
  | "type" =>
      if namesType then do
        advance
        typeAlias start false
      else expressionStatement start
  | "enum" =>
      if namesType then do
        advance
        enumDeclaration start false false
      else expressionStatement start
  | "async" =>
      if ← atAsyncFunction then functionDeclaration start false true
      else expressionStatement start
  | _ => expressionStatement start

/-- A statement.  `declares` says that names may be declared there. -/
def anyStatement [Nested] (declares : Bool) : Parser Program := do
  let token ← token
  let start := token.span.start
  match token.shape with
  | .mark "\x7b" => block
  | .mark ";" => leaf .emptyStatement
  | .word text => wordStatement start declares text
  | _ => expressionStatement start

end Grammar

end Syntax

end Relink
