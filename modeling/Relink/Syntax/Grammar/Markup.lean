import Relink.Syntax.Grammar.Types

/-!
# Markup

Elements written with tags inside expressions.  The text between two tags is taken as
it is, and a closing tag has to have the name of the opening one.
-/

namespace Relink

namespace Syntax

namespace Grammar

open Syntax.Parser

/-! ## Tags -/

def modeBehind (inner : Bool) : Mode :=
  if inner then .betweenTags else .plain

def tagStart : Parser Unit := do
  recut fun text =>
    match text with
    | '<' :: rest => some (.tagStart, rest)
    | _ => none
  advance

/-- Whether a tag ends at the cursor, whatever its angle was cut with. -/
def atTagEnd : Parser Bool := do
  pure ((← token).source.head? = some '>')

/-- Passes the angle that ends a tag.  The position behind it is given. -/
def tagEnd (mode : Mode) : Parser Nat := do
  recut fun text =>
    match text with
    | '>' :: rest => some (.tagEnd, rest)
    | _ => none
  let stop := (← token).span.stop
  advanceInto mode
  pure stop

/-- A name in a tag, in which dashes may stand. -/
def tagWord : Parser Text := do
  recut fun text => (Scan.markupName? text).map fun (_, rest) => (.tagName, rest)
  let token ← token
  advance
  pure token.source

/-- A name in a tag with the one of a namespace in front, if there is one. -/
def spacedWord : Parser Text := do
  let first ← tagWord
  if ← eatMark ":" then pure (first ++ ':' :: (← tagWord)) else pure first

/-- The name of an element: a word with the names of a namespace or of members. -/
def tagName : Parser Program := do
  let start ← start
  let first ← spacedWord
  let name ← loop first fun name => do
    if ← eatMark "." then pure (.inl (name ++ '.' :: (← tagWord)))
    else pure (.inr name)
  node start (.name name) []

/-! ## Attributes -/

def container [Nested] (mode : Mode) : Parser Program := do
  let start ← start
  mark "\x7b"
  if ← atMark "\x7d" then
    let empty := (← Parser.start)
    advanceInto mode
    node start .markupContainer [.node ⟨.markupEmpty, ⟨empty, empty⟩⟩ []]
  else
    let inside ← enclosed (nested .expression)
    let stop := (← token).span.stop
    require (← atMark "\x7d")
    advanceInto mode
    pure (.node ⟨.markupContainer, ⟨start, stop⟩⟩ [inside])

/-- The value of an attribute, which is not empty. -/
def attributeValue [Nested] : Parser Program := do
  let token ← token
  match token.shape with
  | .string _ => leaf (.literal token.source)
  | .mark "\x7b" => do
      require (!(← markFollows "\x7d"))
      container .plain
  | .mark "<" => nested (.markup false)
  | _ => failure

def tagAttribute [Nested] : Parser Program := do
  let start ← start
  if ← eatMark "\x7b" then
    let start ← Parser.start
    mark "..."
    let value ← enclosed (nested .assignment)
    mark "\x7d"
    node start .markupSpread [value]
  else
    let text ← spacedWord
    let name ← node start (.name text) []
    if ← atMark "=" then
      advanceInto .attributeValue
      let value ← within (fun context =>
        { context with inCondition := false, colonPending := false }) attributeValue
      node start .markupAttribute [name, value]
    else
      node start .markupAttribute [name, absent]

/-- The attributes of an opening tag, up to its end. -/
def attributes [Nested] : Parser (List Program) :=
  gather do
    if (← atTagEnd) || (← atMark "/") then pure none else some <$> tagAttribute

/-! ## Elements -/

def markupChildren [Nested] : Parser (List Program) :=
  gather do
    let token ← token
    match token.shape with
    | .markupText value clean => do
        let start ← start
        check clean
        advanceInto .betweenTags
        some <$> node start (.markupText value) []
    | .mark "\x7b" => do
        if ← markFollows "..." then
          let start ← start
          advance
          advance
          let value ← enclosed (nested .expression)
          let stop := (← Parser.token).span.stop
          require (← atMark "\x7d")
          advanceInto .betweenTags
          pure (some (.node ⟨.markupSpread, ⟨start, stop⟩⟩ [value]))
        else
          some <$> container .betweenTags
    | .mark "<" => do
        if ← markFollows "/" then pure none
        else some <$> nested (.markup true)
    | _ => failure

/-- An element without a name behind the angle that begins it. -/
def fragment [Nested] (start : Nat) (inner : Bool) : Parser Program := do
  let opening ← node start (.markupOpening false) [absent, absent, row []]
  let _ ← tagEnd .betweenTags
  let children ← markupChildren
  let closing ← Parser.start
  tagStart
  mark "/"
  let stop ← tagEnd (modeBehind inner)
  pure (.node ⟨.markup, ⟨start, stop⟩⟩
    [opening, row children, .node ⟨.name [], ⟨closing, stop⟩⟩ []])

/-- An element or a fragment.  `inner` says that it stands between tags itself. -/
def element [Nested] (inner : Bool) : Parser Program := do
  let start ← start
  tagStart
  if ← atTagEnd then
    fragment start inner
  else
    let name ← within (fun context => { context with wholeAngles := false }) tagName
    let generics ← if ← atMark "<" then attempt typeArguments else pure none
    let generics := generics.getD absent
    let parts ← attributes
    if ← eatMark "/" then
      let stop ← tagEnd (modeBehind inner)
      let opening := .node ⟨.markupOpening true, ⟨start, stop⟩⟩ [name, generics, row parts]
      pure (.node ⟨.markup, ⟨start, stop⟩⟩ [opening, row [], absent])
    else
      let openStop ← tagEnd .betweenTags
      let opening := .node ⟨.markupOpening false, ⟨start, openStop⟩⟩ [name, generics, row parts]
      let children ← markupChildren
      tagStart
      mark "/"
      let closing ← tagName
      require (closing.label.kind = name.label.kind)
      let stop ← tagEnd (modeBehind inner)
      pure (.node ⟨.markup, ⟨start, stop⟩⟩ [opening, row children, closing])

end Grammar

end Syntax

end Relink
