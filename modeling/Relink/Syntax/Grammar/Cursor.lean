import Relink.Syntax.Kind
import Relink.Syntax.Scan

/-!
# Parsers

A parser reads tokens at a cursor and may fail.  A failed parser leaves the cursor
where it was, so that another can be tried.  What is nested inside a construct is
parsed one level deeper, and the depth is bounded.

Some rules only matter once it is settled what is read.  They are kept by `check`,
which lets everything pass while a reading is tried out.
-/

namespace Relink

namespace Syntax

/-- What surrounds the place that is parsed. -/
structure Context where
  markup : Bool
  lenient : Bool
  ambient : Bool
  inFunction : Bool
  inAsync : Bool
  inGenerator : Bool
  inParameters : Bool
  inPlainFunction : Bool
  inClassField : Bool
  hasSuperclass : Bool
  breakable : Bool
  continuable : Bool
  labels : List Text
  withoutIn : Bool
  inCondition : Bool
  colonPending : Bool
  withoutConditionalType : Bool
  inType : Bool
  wholeAngles : Bool
deriving Inhabited

namespace Context

def top (markup : Bool) : Context :=
  { (default : Context) with markup := markup }

/-- The surroundings in the body of a function.  A plain function is no arrow function
and has arguments of its own. -/
def body (context : Context) (plain async generator : Bool) : Context :=
  { context with
    inFunction := true
    inAsync := async
    inGenerator := generator
    inPlainFunction := plain || context.inPlainFunction
    inClassField := !plain && context.inClassField
    breakable := false
    continuable := false
    labels := []
    colonPending := false }

/-- The surroundings in the parameters of a function. -/
def parameters (context : Context) (async generator : Bool) : Context :=
  { context with
    inFunction := false
    inAsync := async
    inGenerator := generator
    inParameters := true
    inClassField := false }

def enclosed (context : Context) : Context :=
  { context with
    withoutIn := false
    colonPending := false
    withoutConditionalType := false }

def singleAngles (context : Context) : Bool :=
  context.inType && !context.wholeAngles

end Context

/-- How the next token is cut. -/
inductive Mode
  | plain
  | betweenTags
  | attributeValue

/-- A place in a source text, with the token there.  It is known where the value began
that may turn out to be an arrow function, and which literals end in a comma. -/
structure Cursor where
  token : Token
  here : Text
  behind : Text
  lastStop : Nat
  comments : Comments
  context : Context
  size : Nat
  arrowStart : Option Nat
  trailingCommas : List Nat
deriving Inhabited

namespace Cursor

def place (cursor : Cursor) (position : Nat) (onNewLine : Bool) (here : Text)
    (found : Shape × Text) : Cursor :=
  let source := here.take (here.length - found.2.length)
  { cursor with
    token := ⟨found.1, ⟨position, position + Text.byteLength source⟩, source, onNewLine⟩
    here := here
    behind := found.2 }

/-- The cursor with the token behind a gap.  Comments at the end of the text belong
to the last token, if there is one. -/
def settle (cursor : Cursor) (hasToken : Bool) (gap : Scan.Gap) (found : Shape × Text) :
    Cursor :=
  let stop := cursor.token.span.stop
  let comments := cursor.comments.addTrailing stop gap.trailing
  let comments :=
    if found.1 = .finish ∧ hasToken then comments.addTrailing stop gap.pending
    else if found.1 = .finish then comments.addLeading stop gap.pending
    else comments.addLeading gap.position gap.pending
  { cursor with lastStop := stop, comments := comments }.place
    gap.position gap.onNewLine gap.text found

def gap (cursor : Cursor) (onNewLine : Bool) : Scan.Gap :=
  Scan.Gap.fill cursor.token.shape (cursor.behind.length + 1)
    ⟨cursor.token.span.stop, cursor.behind, onNewLine, [], []⟩

def next (mode : Mode) (cursor : Cursor) : Cursor :=
  match mode with
  | .plain =>
      let gap := cursor.gap false
      cursor.settle true gap (Scan.shape cursor.context.singleAngles gap.text)
  | .betweenTags =>
      { cursor with lastStop := cursor.token.span.stop }.place cursor.token.span.stop false
        cursor.behind (Scan.markupShape cursor.behind)
  | .attributeValue =>
      let gap := cursor.gap false
      cursor.settle true gap ((Scan.markupString? gap.text).getD (Scan.shape false gap.text))

/-- The cursor at the first token of a text that begins at a position.  `hasToken` says
that something else stands before the text. -/
def first (context : Context) (start : Nat) (hasToken : Bool) (text : Text) : Cursor :=
  let blank : Cursor :=
    ⟨⟨.finish, ⟨start, start⟩, [], true⟩, text, text, start, .none, context, text.length,
      none, []⟩
  let gap := blank.gap true
  blank.settle hasToken gap (Scan.shape false gap.text)

end Cursor

abbrev Parser := StateT Cursor Option

namespace Parser

/-! ## The token at the cursor -/

def token : Parser Token := do
  pure (← get).token

def context : Parser Context := do
  pure (← get).context

def start : Parser Nat := do
  pure (← token).span.start

def advanceInto (mode : Mode) : Parser Unit :=
  modify (·.next mode)

def advance : Parser Unit :=
  advanceInto .plain

def require (condition : Bool) : Parser Unit :=
  if condition then pure () else failure

/-- Goes on if a condition holds, or if it is not settled yet what is read. -/
def check (condition : Bool) : Parser Unit := do
  require (condition || (← context).lenient)

def given {α : Type} : Option α → Parser α
  | some value => pure value
  | none => failure

def recut (cut : Text → Option (Shape × Text)) : Parser Unit := do
  let cursor ← get
  let found ← given (cut cursor.here)
  set (cursor.place cursor.token.span.start cursor.token.onNewLine cursor.here found)

def atMark (text : String) : Parser Bool := do
  pure ((← token).shape = .mark text)

def atMarks (texts : List String) : Parser Bool := do
  match (← token).shape with
  | .mark text => pure (texts.contains text)
  | _ => pure false

def isWord (token : Token) (text : String) : Bool :=
  token.shape = .word text.toList

def isMark (token : Token) (text : String) : Bool :=
  token.shape = .mark text

def isAnyWord (token : Token) : Bool :=
  match token.shape with
  | .word _ => true
  | _ => false

/-- Whether a token is a word that may be a name of its own. -/
def isFreeWord (token : Token) : Bool :=
  match token.shape with
  | .word text => !isReserved text
  | _ => false

def atWord (text : String) : Parser Bool := do
  pure (isWord (← token) text)

def atWords (texts : List String) : Parser Bool := do
  let token ← token
  pure (texts.any (isWord token))

def onNewLine : Parser Bool := do
  pure (← token).onNewLine

def eatMark (text : String) : Parser Bool := do
  if ← atMark text then
    advance
    pure true
  else
    pure false

def eatWord (text : String) : Parser Bool := do
  if ← atWord text then
    advance
    pure true
  else
    pure false

def mark (text : String) : Parser Unit := do
  require (← eatMark text)

def word (text : String) : Parser Unit := do
  require (← eatWord text)

/-- Whether a statement may end at the cursor: at a semicolon, or where one may miss. -/
def atEnd : Parser Bool := do
  let token ← token
  pure (token.onNewLine || token.shape = .finish || isMark token ";" || isMark token "\x7d")

def semicolon : Parser Unit := do
  require (← atEnd)
  let _ ← eatMark ";"

/-! ## Combining parsers -/

def within {α : Type} (change : Context → Context) (parser : Parser α) : Parser α :=
  fun cursor =>
    match parser { cursor with context := change cursor.context } with
    | some (value, after) => some (value, { after with context := cursor.context })
    | none => none

/-- Parses while it is not settled yet what is read. -/
def lenient {α : Type} (parser : Parser α) : Parser α :=
  within (fun context => { context with lenient := true }) parser

/-- What a parser gives, if it succeeds.  The cursor stays. -/
def lookAhead {α : Type} (parser : Parser α) : Parser (Option α) :=
  fun cursor => some ((lenient parser cursor).map Prod.fst, cursor)

/-- Whether a parser finds what it looks for.  The cursor stays. -/
def finds (parser : Parser Bool) : Parser Bool := do
  pure ((← lookAhead parser).getD false)

def attempt {α : Type} (parser : Parser α) : Parser (Option α) :=
  fun cursor =>
    match lenient parser cursor with
    | some (value, cursor) => some (some value, cursor)
    | none => some (none, cursor)

def nextToken : Parser Token := do
  given (← lookAhead (advance *> token))

/-- Whether a mark stands behind the token at the cursor. -/
def markFollows (text : String) : Parser Bool := do
  pure (isMark (← nextToken) text)

/-- Whether a word stands behind the token at the cursor, on its line. -/
def wordFollows (text : String) : Parser Bool := do
  let next ← nextToken
  pure (!next.onNewLine && isWord next text)

/-- Parses where angles are marks of their own. -/
def inTypes {α : Type} (parser : Parser α) : Parser α :=
  within (fun context => { context with inType := true }) parser

def withIn {α : Type} (parser : Parser α) : Parser α :=
  within (fun context => { context with withoutIn := false }) parser

def enclosed {α : Type} (parser : Parser α) : Parser α :=
  within Context.enclosed parser

/-- Repeats a step until it gives a result, at most `limit` times. -/
def iterate {σ α : Type} (step : σ → Parser (σ ⊕ α)) : (limit : Nat) → σ → Parser α
  | 0, _ => failure
  | limit + 1, state => do
      match ← step state with
      | .inl next => iterate step limit next
      | .inr result => pure result

def loop {σ α : Type} (first : σ) (step : σ → Parser (σ ⊕ α)) : Parser α := do
  iterate step ((← get).size + 2) first

def gather {α : Type} (step : Parser (Option α)) : Parser (List α) :=
  loop [] fun items => do
    match ← step with
    | some item => pure (.inl (items ++ [item]))
    | none => pure (.inr items)

def itemsBefore {α : Type} (close : String) (item : Parser α) : Parser (List α) :=
  gather do
    if ← atMark close then pure none else some <$> item

/-- Items up to a closing mark, which is passed. -/
def itemsUntil {α : Type} (close : String) (item : Parser α) : Parser (List α) := do
  let items ← itemsBefore close item
  mark close
  pure items

/-- An item with the comma behind it, which may miss before a closing mark. -/
def commaEnded {α : Type} (close : String) (item : Parser α) : Parser α := do
  let value ← item
  if !(← atMark close) then mark ","
  pure value

/-- Items between commas up to a closing mark, which is passed.  A comma may trail. -/
def commaItems {α : Type} (close : String) (item : Parser α) : Parser (List α) :=
  itemsUntil close (commaEnded close item)

/-! ## Nodes -/

/-- A node from a position to the end of the last token. -/
def node (start : Nat) (kind : Kind) (children : List Program) : Parser Program := do
  pure (.node ⟨kind, ⟨start, (← get).lastStop⟩⟩ children)

/-- A node for the token at the cursor, which is passed. -/
def leaf (kind : Kind) : Parser Program := do
  let start ← start
  advance
  node start kind []

def orAbsent (condition : Bool) (parser : Parser Program) : Parser Program :=
  if condition then parser else pure absent

/-! ## Nesting -/

/-- What may be nested in another construct. -/
inductive Goal
  | expression
  | assignment
  | binary (minimum : Nat)
  | unary
  | subject
  | members
  | brackets (async : Option Nat)
  | object
  | entity
  | pattern
  | type
  | plainType
  | markup (inner : Bool)
  | statement
  | item (inModule : Bool)

/-- The parser for what is nested one level deeper. -/
class Nested where
  parse : Goal → Parser Program

def nested [Nested] (goal : Goal) : Parser Program :=
  Nested.parse goal

end Parser

end Syntax

end Relink
