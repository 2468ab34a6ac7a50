import Relink.Syntax.Grammar.Cursor

/-!
# Names, templates and patterns

The parts that expressions, types and declarations share.
-/

namespace Relink

namespace Syntax

namespace Grammar

open Syntax.Parser

/-! ## Names -/

def anyName : Parser Program := do
  match (← token).shape with
  | .word text => leaf (.name text)
  | _ => failure

/-- The words that are no names in a module, though the grammar has room for them. -/
def strictWords : List String := ["let", "static", "yield"] ++ keptWords

/-- The keywords that the grammar takes for names. -/
def nameableWords : List String := ["let", "this", "yield"]

/-- A word that is a name of its own.  The word `await` is one only where nothing is
carried out, and the values of a class have no arguments. -/
def ownWord : Parser Text := do
  match (← token).shape with
  | .word text => do
      let context ← context
      require (!isFixedWord text || isOneOf nameableWords text ||
        (context.ambient && text = "await".toList))
      check (!isOneOf strictWords text)
      check (!(context.inClassField && text = "arguments".toList))
      pure text
  | _ => failure

/-- The names that cannot be bound or assigned to. -/
def isUnbindable (name : Text) : Bool :=
  isOneOf ["eval", "arguments"] name

def boundWord : Parser Text := do
  let text ← ownWord
  check (!isUnbindable text)
  pure text

def ownName : Parser Program := do
  leaf (.name (← ownWord))

def boundName : Parser Program := do
  leaf (.name (← boundWord))

def quotedName : Parser Program := do
  match (← token).shape with
  | .string _ => leaf (.name (← token).source)
  | _ => failure

def privateName : Parser Program := do
  match (← token).shape with
  | .privateName text => leaf (.name text)
  | _ => failure

/-- A value between square brackets as the name of a property.  A sequence needs
brackets of its own. -/
def computedKey [Nested] : Parser Program := do
  let start ← start
  mark "["
  let inside ← enclosed (nested .expression)
  check (inside.label.kind ≠ .sequence)
  mark "]"
  node start .computed [inside]

def key [Nested] : Parser Program := do
  let token ← token
  match token.shape with
  | .word text => leaf (.name text)
  | .string _ | .number | .bigint => leaf (.name token.source)
  | .mark "[" => computedKey
  | _ => failure

/-! ## Modifiers -/

def followsModifier (token : Token) : Bool :=
  !token.onNewLine &&
    match token.shape with
    | .word _ | .privateName _ | .string _ | .number | .bigint => true
    | .mark text => ["[", "\x7b", "*", "..."].contains text
    | _ => false

/-- Passes one of some words if it stands as a modifier. -/
def modifier? (words : List String) : Parser (Option String) := do
  match words.find? (isWord (← token)) with
  | some word =>
      if followsModifier (← nextToken) then do
        advance
        pure (some word)
      else
        pure none
  | none => pure none

/-- Passes the word that would make a parameter a property.  It has a meaning only in
constructors. -/
def misplacedModifier : Parser Bool := do
  let words := ["public", "private", "protected", "readonly"]
  if ← atWords words then
    let next ← nextToken
    if isAnyWord next || isMark next "\x7b" || isMark next "[" then
      let _ ← modifier? words
      pure true
    else
      pure false
  else
    pure false

/-! ## Templates -/

/-- The stretches of a template and what is substituted between them. -/
structure TemplateParts where
  pieces : List Text
  items : List Program

/-- A template with substitutions of some kind.  Every escape has to have a meaning
if `strict` holds. -/
def templateParts (strict : Bool) (item : Parser Program) : Parser TemplateParts :=
  loop (TemplateParts.mk [] []) fun parts => do
    match (← token).shape with
    | .template cooked piece closed => do
        require (!strict || cooked.isSome)
        advance
        let pieces := parts.pieces ++ [piece]
        if closed then
          pure (.inr ⟨pieces, parts.items⟩)
        else
          let inside ← enclosed item
          require (← atMark "\x7d")
          recut fun text => do
            let (stretch, rest) ← Scan.templateBody? text.length (text.drop 1)
            some (.template stretch.cooked stretch.piece stretch.closed, rest)
          pure (.inl ⟨pieces, parts.items ++ [inside]⟩)
    | _ => failure

/-! ## Patterns -/

def ascription [Nested] : Parser Program := do
  if ← atMark ":" then
    let start ← start
    inTypes do
      advance
      let type ← nested .type
      node start .ascription [type]
  else
    pure absent

def defaultValue [Nested] : Parser Program := do
  mark "="
  withIn (nested .assignment)

/-- An element of a pattern, which may have a default value. -/
def patternElement [Nested] : Parser Program := do
  let start ← start
  let left ← nested .pattern
  if ← atMark "=" then
    let right ← defaultValue
    node start .defaulted [left, right]
  else
    pure left

def restElement [Nested] : Parser Program := do
  let start ← start
  mark "..."
  let inside ← nested .pattern
  node start .rest [inside, absent]

/-- Whether a part is the rest of a list, of an object, or of parameters. -/
def isRest (part : Program) : Bool := part.label.kind = .rest

/-- An element between commas up to a closing mark.  Nothing follows the rest, not even
a comma. -/
def listed (close : String) (item : Parser Program) : Parser Program := do
  let part ← item
  if !(← atMark close) then
    mark ","
    check (!isRest part)
  pure part

def listElements [Nested] : Parser (List Program) :=
  itemsUntil "]" do
    if ← eatMark "," then pure absent
    else listed "]" (do if ← atMark "..." then restElement else patternElement)

/-- The rest of an object, which is bound to a name. -/
def objectRest [Nested] : Parser Program := do
  let rest ← restElement
  let bindsName := rest.children.head?.any fun inside =>
    inside.label.kind matches .binding ..
  require bindsName
  pure rest

def patternEntry [Nested] : Parser Program := do
  if ← atMark "..." then
    objectRest
  else
    let start ← start
    let token ← token
    let name ← key
    if ← eatMark ":" then
      let value ← patternElement
      node start .patternEntry [name, value]
    else
      require (isAnyWord token)
      let value ← orAbsent (← atMark "=") defaultValue
      node start .patternShorthand [name, value]

/-- The question mark behind a pattern that takes a value apart. -/
def ambientMark : Parser Bool := do
  if (← context).ambient then eatMark "?" else pure false

def pattern [Nested] : Parser Program := do
  let start ← start
  if ← eatMark "[" then
    let elements ← enclosed listElements
    let optional ← ambientMark
    node start (.arrayPattern optional) [row elements, absent]
  else if ← eatMark "\x7b" then
    let entries ← enclosed (itemsUntil "\x7d" (listed "\x7d" patternEntry))
    let optional ← ambientMark
    node start (.objectPattern optional) [row entries, absent]
  else
    let name ← boundWord
    advance
    node start (.binding name false) [absent]

/-- A pattern with a type, which may reach as far as a new span. -/
def retyped (found : Program) (optional : Bool) (type : Program) (span : Span) : Program :=
  match found with
  | .node ⟨.binding name _, _⟩ _ => .node ⟨.binding name optional, span⟩ [type]
  | .node ⟨.arrayPattern marked, _⟩ [parts, _] =>
      .node ⟨.arrayPattern (marked || optional), span⟩ [parts, type]
  | .node ⟨.objectPattern marked, _⟩ [parts, _] =>
      .node ⟨.objectPattern (marked || optional), span⟩ [parts, type]
  | .node ⟨.rest, _⟩ [inside, _] => .node ⟨.rest, span⟩ [inside, type]
  | other => other

/-- A pattern with the type behind it, over which it does not reach. -/
def typedPattern [Nested] : Parser Program := do
  let found ← nested .pattern
  let type ← ascription
  pure (retyped found false type found.label.span)

end Grammar

end Syntax

end Relink
