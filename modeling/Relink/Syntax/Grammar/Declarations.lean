import Relink.Syntax.Grammar.Classes
import Relink.Syntax.Grammar.Targets

/-!
# Declarations

Variables, and the declarations of types and namespaces.  A declaration that is begun by
a word which may also be a name is read behind that word.
-/

namespace Relink

namespace Syntax

namespace Grammar

open Syntax.Parser

/-! ## Variables -/

/-- The first value of a variable behind its name or pattern.  At the head of a loop over
values there is none, and a constant elsewhere has to have one. -/
def firstValue [Nested] (inHead constant isName : Bool) : Parser Program := do
  if inHead && (← atWords ["in", "of"]) then
    pure absent
  else if ← eatMark "=" then
    let value ← nested .assignment
    check (!Target.hasCover value)
    pure value
  else
    let ambient := (← context).ambient
    let misses := constant && !inHead
    check (ambient || !misses)
    require (ambient || isName || misses)
    pure absent

/-- A variable with its type and its first value. -/
def declarator [Nested] (inHead constant : Bool) : Parser Program := do
  let start ← start
  let found ← nested .pattern
  let isName := found.label.kind matches .binding ..
  if isName then
    let _ ← eatMark "!"
  let type ← ascription
  let value ← firstValue inHead constant isName
  node start .declarator [retyped found false type found.label.span, value]

/-- Variables between commas, behind the word for them. -/
def declarators [Nested] (inHead constant : Bool) : Parser (List Program) :=
  loop [] fun parts => do
    if (← atMark ";") || (← token).shape = .finish then
      check false
      pure (.inr parts)
    else
      let part ← declarator inHead constant
      let parts := parts ++ [part]
      if ← eatMark "," then pure (.inl parts) else pure (.inr parts)

def variableRow [Nested] (start : Nat) (inHead declare : Bool) : Parser Program := do
  let word := String.ofList (← token).source
  advance
  let parts ← within (fun context => { context with withoutIn := inHead && word = "var" })
    (declarators inHead (word = "const"))
  node start (.declaredVariables word declare) parts

def variableStatement [Nested] (start : Nat) (declare : Bool) : Parser Program := do
  let .node ⟨kind, _⟩ parts ← variableRow start false declare | failure
  semicolon
  node start kind parts

/-- Whether a variable has a name and a first value, as one that is disposed of has to. -/
def isResource (declarator : Program) : Bool :=
  match declarator.children with
  | [target, value] => target.label.kind matches .binding .. && value.label.kind ≠ .absent
  | _ => false

/-- Variables that are disposed of at the end of the block, behind the word for them. -/
def resources [Nested] (start : Nat) (awaited : Bool) : Parser Program := do
  let parts ← declarators false false
  check (parts.all isResource)
  node start (.resources awaited) parts

/-! ## Types -/

def typeAlias [Nested] (start : Nat) (declare : Bool) : Parser Program := do
  let name ← anyName
  let generics ← typeParameters? true false
  let type ← inTypes do
    mark "="
    nested .type
  semicolon
  node start (.typeAlias declare) [name, generics, type]

def interfaceDeclaration [Nested] (start : Nat) (declare : Bool) : Parser Program := do
  let name ← anyName
  check (isTypeName name)
  let generics ← typeParameters? true false
  let parents ← if ← eatWord "extends" then heritages else pure []
  let body ← typeMembers .interfaceBody
  node start (.interfaceDeclaration declare) [name, generics, row parents, body]

/-- The name of a member of an enumeration: a word or a string. -/
def enumName [Nested] : Parser Program := do
  let start ← start
  let source := (← token).source
  match (← token).shape with
  | .string _ => quotedName
  | .number => do
      check false
      leaf (.name ('"' :: source ++ ['"']))
  | .mark "[" => do
      check false
      let _ ← computedKey
      node start (.name []) []
  | _ => anyName

def enumMember [Nested] : Parser Program := do
  let start ← start
  let name ← enumName
  let value ← orAbsent (← atMark "=") defaultValue
  node start .enumMember [name, value]

/-- The members of an enumeration, between braces. -/
def enumMembers [Nested] : Parser (List Program) := do
  mark "\x7b"
  enclosed (itemsUntil "\x7d" do
    let member ← enumMember
    if !(← atMark "\x7d") then
      check (← atMark ",")
      advance
    pure member)

def enumDeclaration [Nested] (start : Nat) (declare constant : Bool) : Parser Program := do
  let name ← anyName
  let members ← enumMembers
  node start (.enumDeclaration declare constant) [name, row members]

/-! ## Namespaces -/

/-- The items of a namespace, between braces. -/
def moduleBlock [Nested] : Parser Program := do
  let start ← start
  mark "\x7b"
  let items ← enclosed (itemsUntil "\x7d" (nested (.item true)))
  node start .moduleBlock items

def namespaceDeclaration [Nested] (start : Nat) (declare : Bool) : Parser Program := do
  let first ← anyName
  let more ← gather do
    if ← eatMark "." then some <$> anyName else pure none
  let body ← moduleBlock
  node start (.namespaceDeclaration "namespace" declare) [row (first :: more), body]

/-- What a described module or the global scope holds, if that is said. -/
def describedBody [Nested] : Parser Program := do
  if ← atMark "\x7b" then
    moduleBlock
  else
    semicolon
    pure absent

def describedModule [Nested] (start : Nat) (declare : Bool) : Parser Program := do
  let name ← quotedName
  let body ← describedBody
  node start (.namespaceDeclaration "module" declare) [row [name], body]

/-- The global scope, behind the word for it. -/
def globalScope [Nested] (start : Nat) (declare : Bool) : Parser Program := do
  let body ← describedBody
  node start (.namespaceDeclaration "global" declare) [row [], body]

/-! ## Declarations by word -/

/-- The words that begin a declaration though they may be names. -/
def declaringWords : List String :=
  ["abstract", "enum", "interface", "module", "namespace", "type"]

/-- A declaration behind the word for it, none if the word is only a name.  `sure` says
that it cannot be one. -/
def wordedDeclaration? [Nested] (start : Nat) (word : String) (sure declare : Bool) :
    Parser (Option Program) := do
  let token ← token
  let sameLine := sure || !token.onNewLine
  let isNamed := sure || isFreeWord token
  match word with
  | "abstract" =>
      if sure || (sameLine && isWord token "class") then
        some <$> classDeclaration start true declare true
      else pure none
  | "enum" => if isNamed then some <$> enumDeclaration start declare false else pure none
  | "interface" => if isNamed then some <$> interfaceDeclaration start declare else pure none
  | "module" =>
      if sameLine && token.shape matches .string _ then
        some <$> describedModule start declare
      else if sameLine && isNamed then
        some <$> namespaceDeclaration start declare
      else pure none
  | "namespace" => if isNamed then some <$> namespaceDeclaration start declare else pure none
  | "type" =>
      if sameLine && isNamed then some <$> typeAlias start declare else pure none
  | _ => pure none

/-- A declaration that begins with the word at the cursor, none if the word begins
none. -/
def certainDeclaration? [Nested] (start : Nat) (declare : Bool) : Parser (Option Program) := do
  let token ← token
  let word := String.ofList token.source
  if declaringWords.contains word && !(word = "module" && token.onNewLine) then
    advance
    wordedDeclaration? start word true declare
  else
    pure none

/-- Whether a constant enumeration begins at the cursor. -/
def atConstantEnum : Parser Bool := do
  pure ((← atWord "const") && isWord (← nextToken) "enum")

/-- An enumeration with the words for a constant one. -/
def constantEnum [Nested] (start : Nat) (declare : Bool) : Parser Program := do
  word "const"
  word "enum"
  enumDeclaration start declare true

/-- A declaration that only describes, behind the word for it, none if none follows. -/
def description? [Nested] (start : Nat) : Parser (Option Program) := do
  check (!(← context).ambient)
  within (fun context => { context with ambient := true }) do
    if ← atWord "function" then
      some <$> functionDeclaration start true true
    else if ← atWord "class" then
      some <$> classDeclaration start false true true
    else if ← atConstantEnum then
      some <$> constantEnum start true
    else if ← atWords ["const", "var", "let"] then
      some <$> variableStatement start true
    else if ← eatWord "global" then
      some <$> globalScope start true
    else
      certainDeclaration? start true

end Grammar

end Syntax

end Relink
