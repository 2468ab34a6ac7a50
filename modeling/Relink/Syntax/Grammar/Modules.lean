import Relink.Syntax.Grammar.Statements

/-!
# Imports and exports

The items of a module.  A declaration with a source is a request whose slot is the
literal of the source.
-/

namespace Relink

namespace Syntax

namespace Grammar

open Syntax.Parser

/-- A declaration that is a request if it has a source. -/
def declarationNode (start : Nat) (form : Form) (kind : Kind) (source : Option Literal)
    (children : List Program) : Parser Program := do
  let plain ← node start kind children
  match source with
  | some slot => pure (.request form plain.label slot children)
  | none => pure plain

def source : Parser Literal := do
  let token ← token
  match token.shape with
  | .string value => do
      advance
      pure (.string token.span value (some token.source))
  | _ => failure

/-- The attributes behind a source, if there are any. -/
def importAttributes [Nested] : Parser Program := do
  let here ← atWords ["with", "assert"]
  if here && !(← onNewLine) then
    advance
    nested .object
  else
    pure absent

/-- The end of a declaration that has a source, behind the word for it. -/
def sourceClause [Nested] (start : Nat) (form : Form) (kind : Kind) (children : List Program) :
    Parser Program := do
  let slot ← source
  let attributes ← importAttributes
  semicolon
  declarationNode start form kind (some slot) (children ++ [attributes])

/-! ## Specifiers -/

/-- A name or a string by which something is exported. -/
def exportName : Parser Program := do
  match (← token).shape with
  | .string _ => quotedName
  | _ => anyName

def isQuoted (name : Program) : Bool :=
  match name.label.kind with
  | .name text => text.head? = some '"' || text.head? = some '\''
  | _ => false

/-- A specifier in braces as it is read: whether it is of a type only, its name, and
the name behind `as`. -/
structure Specifier where
  typeOnly : Bool
  name : Program
  renamed : Program

def newName (localName : Parser Program) : Parser Program := do
  orAbsent (← eatWord "as") localName

/-- A specifier behind the word `type` and a word `as`.  The names may be these words
themselves. -/
def typeAsSpecifier (word second : Program) (localName : Parser Program) : Parser Specifier := do
  if !isAnyWord (← token) then
    pure ⟨true, second, absent⟩
  else
    let isSecondAs ← atWord "as"
    let third ← localName
    if isSecondAs && isAnyWord (← token) then
      let last ← localName
      pure ⟨true, second, last⟩
    else
      pure ⟨false, word, third⟩

/-- A specifier in braces.  The word `type` may be the name itself, or it may say that the
name is of a type only, which `inTypes` says of all of them. -/
def specifier (inTypes : Bool) (localName : Parser Program) : Parser Specifier := do
  let isType ← atWord "type"
  let name ← exportName
  if isType && isAnyWord (← token) then
    let isAs ← atWord "as"
    let second ← anyName
    let found ←
      if isAs then typeAsSpecifier name second localName
      else do pure ⟨true, second, ← newName localName⟩
    check (!(inTypes && found.typeOnly))
    pure found
  else
    pure ⟨false, name, ← newName localName⟩

/-- A specifier of an import.  A string needs a name to be known by. -/
def importSpecifier (inTypes : Bool) : Parser Program := do
  let start ← start
  let found ← specifier inTypes boundName
  if found.renamed.label.kind ≠ .absent then
    node start (.importNamed found.typeOnly) [found.name, found.renamed]
  else
    require (!isQuoted found.name)
    node start (.importNamed found.typeOnly) [absent, found.name]

def exportSpecifier (inTypes : Bool) : Parser Program := do
  let start ← start
  let found ← specifier inTypes exportName
  node start (.exportSpecifier found.typeOnly) [found.name, found.renamed]

/-! ## Imports -/

/-- A module as a whole, or a name with the names it is qualified by. -/
def moduleReference [Nested] : Parser Program := do
  let start ← start
  if (← atWord "require") && (← markFollows "(") then
    advance
    mark "("
    let name ← quotedName
    mark ")"
    node start .externalModule [name]
  else
    qualifiedName ownName

/-- An import of a module by a name of its own, behind the name. -/
def importEquals [Nested] (start : Nat) (exported typeOnly : Bool) (name : Program) :
    Parser Program := do
  mark "="
  let reference ← moduleReference
  semicolon
  node start (.importEquals exported typeOnly) [name, reference]

/-- What stands first behind `import`: the name of the default export, whether only types
are imported, and in which phase. -/
structure ImportHead where
  name : Option Program
  typeOnly : Bool
  phase : Option String

/-- The head of an import that begins with the word `type`, which was passed. -/
def typeHead (name : Program) : Parser ImportHead := do
  let token ← token
  if isMark token "*" || isMark token "\x7b" then
    pure ⟨none, true, none⟩
  else if isFreeWord token then
    let next ← nextToken
    if !isWord token "from" || isWord next "from" then do
      pure ⟨some (← boundName), true, none⟩
    else if isMark next "=" then do
      pure ⟨some (← anyName), true, none⟩
    else
      pure ⟨some name, false, none⟩
  else
    pure ⟨some name, false, none⟩

/-- The head of an import in which a phase may be named. -/
def phaseHead (head : ImportHead) : Parser ImportHead := do
  let phase := ["defer", "source"].find? fun word =>
    head.name.any fun name => name.label.kind = .name word.toList
  let token ← token
  if phase.isNone then
    pure head
  else if isMark token "*" || isMark token "\x7b" then
    pure { head with name := none, phase := phase }
  else if (isFreeWord token && !isWord token "from") || isWord (← nextToken) "from" then
    pure { head with name := some (← boundName), phase := phase }
  else
    pure head

def importHead : Parser ImportHead := do
  if isFreeWord (← token) then
    let isType ← atWord "type"
    let name ← boundName
    let head ← if isType then typeHead name else pure ⟨some name, false, none⟩
    if ← atMark "=" then pure head else phaseHead head
  else
    pure ⟨none, false, none⟩

/-- What an import makes known besides the default export. -/
def importBindings (typeOnly : Bool) (phase : Option String) : Parser (List Program) := do
  let start ← start
  let token ← token
  if phase ≠ some "source" && isMark token "*" then
    advance
    word "as"
    let name ← boundName
    let all ← node start .importNamespace [name]
    pure [all]
  else if phase.isNone && isMark token "\x7b" then
    advance
    commaItems "\x7d" (importSpecifier typeOnly)
  else
    pure []

def importNames [Nested] (start : Nat) (head : ImportHead) : Parser Program := do
  let first ←
    match head.name with
    | some name => do
        if !(← atWord "from") then mark ","
        pure [.node ⟨.importDefault, name.label.span⟩ [name]]
    | none => pure []
  let more ← importBindings head.typeOnly head.phase
  word "from"
  sourceClause start .importDeclaration (.importDeclaration head.typeOnly head.phase)
    [row (first ++ more)]

def importDeclaration [Nested] (start : Nat) : Parser Program := do
  match (← token).shape with
  | .string _ =>
      sourceClause start .importDeclaration (.importDeclaration false none) [row []]
  | _ => do
      let head ← importHead
      match head.name with
      | some name =>
          if ← atMark "=" then importEquals start false head.typeOnly name
          else importNames start head
      | none => importNames start head

/-! ## Exports -/

/-- An export of all that a module exports.  `nameStart` is where a name for it begins. -/
def exportAll [Nested] (start nameStart : Nat) (typeOnly : Bool) : Parser Program := do
  mark "*"
  if ← eatWord "as" then
    let name ← exportName
    let all ← node nameStart .exportNamespace [name]
    word "from"
    sourceClause start .exportNamed (.exportNamed typeOnly) [row [all]]
  else
    word "from"
    sourceClause start .exportAll (.exportAll typeOnly) []

/-- The words that no name can be by itself, even where it is only exported. -/
def unexportableWords : List String :=
  ["enum", "package"] ++ constantWords ++
    keywords.filter fun word => !(["await", "let", "yield"].contains word)

/-- Whether something known in the module can be exported by a specifier. -/
def isLocal (specifier : Program) : Bool :=
  match specifier.children with
  | name :: _ =>
      !isQuoted name &&
        match name.label.kind with
        | .name text => !isOneOf unexportableWords text
        | _ => true
  | [] => true

/-- An export of names, which may come from a module. -/
def exportNames [Nested] (start : Nat) (typeOnly : Bool) : Parser Program := do
  mark "\x7b"
  let names ← commaItems "\x7d" (exportSpecifier typeOnly)
  if ← eatWord "from" then
    sourceClause start .exportNamed (.exportNamed typeOnly) [row names]
  else
    check (names.all isLocal)
    let _ ← attempt semicolon
    declarationNode start .exportNamed (.exportNamed typeOnly) none [row names, absent]

/-- The declaration that is exported as the default, none if a value is. -/
def defaultDeclaration? [Nested] : Parser (Option Program) := do
  let start ← start
  if (← atWord "abstract") && (← wordFollows "class") then
    advance
    some <$> classDeclaration start true false false
  else
    if (← atWord "abstract") && isWord (← nextToken) "interface" then
      check false
      advance
    if ← eatWord "interface" then
      some <$> interfaceDeclaration start false
    else if ← atWord "class" then
      some <$> classDeclaration start false false false
    else if (← atWord "function") || (← atAsyncFunction) then
      some <$> functionDeclaration start false false
    else
      pure none

/-- The default export, behind the words for it. -/
def exportDefault [Nested] (start : Nat) : Parser Program := do
  match ← defaultDeclaration? with
  | some declaration => node start (.exported true) [declaration]
  | none => do
      let value ← nested .assignment
      semicolon
      node start (.exportedValue false) [value]

/-- An export of what the module is as a whole, or of a name for another, none if none
begins. -/
def exportWhole? [Nested] (start : Nat) : Parser (Option Program) := do
  if ← eatWord "import" then
    let typeOnly := (← atWord "type") && isAnyWord (← nextToken)
    if typeOnly then advance
    let name ← anyName
    some <$> importEquals start true typeOnly name
  else if ← eatMark "=" then
    let value ← nested .expression
    semicolon
    some <$> node start (.exportedValue true) [value]
  else if ← eatWord "as" then
    word "namespace"
    let name ← ownName
    semicolon
    some <$> node start .exportAsNamespace [name]
  else
    pure none

/-- A declaration that is exported, none if none begins. -/
def exportedDeclaration? [Nested] : Parser (Option Program) := do
  let start ← start
  if ← atWord "class" then
    some <$> classDeclaration start false false true
  else if (← atWord "function") || (← atAsyncFunction) then
    some <$> functionDeclaration start false true
  else if ← atConstantEnum then
    some <$> constantEnum start false
  else if (← atWords ["var", "const"]) || (← atLetVariables) then
    some <$> variableStatement start false
  else
    pure none

/-- An export of names or of all that a module exports. -/
def exportList [Nested] (start nameStart : Nat) (typeOnly : Bool) : Parser Program := do
  if ← atMark "*" then exportAll start nameStart typeOnly else exportNames start typeOnly

/-- An export that describes nothing, behind the word for it. -/
def plainExport [Nested] (start : Nat) : Parser Program := do
  match ← exportWhole? start with
  | some whole => pure whole
  | none => do
      let nameStart ← Parser.start
      if ← eatWord "type" then
        exportList start nameStart true
      else if ← eatWord "default" then
        exportDefault start
      else
        match ← exportedDeclaration? with
        | some declaration => node start (.exported false) [declaration]
        | none => exportList start nameStart false

/-- A declaration that begins with a word which may be a name, none if the reading
fails. -/
def typeDeclaration? [Nested] : Parser (Option Program) := do
  let start ← start
  let found ← attempt (certainDeclaration? start false)
  pure (found.getD none)

def exportDeclaration [Nested] (start : Nat) : Parser Program := do
  let inside ← Parser.start
  let described ← if ← eatWord "declare" then description? inside else pure none
  match described with
  | some declaration => node start (.exported false) [declaration]
  | none => do
      match ← typeDeclaration? with
      | some declaration => node start (.exported false) [declaration]
      | none => plainExport start

def item [Nested] (inModule : Bool) : Parser Program := do
  let start ← start
  let isValue ← if ← atWord "import" then (markFollows "(" <||> markFollows ".") else pure false
  if !inModule || isValue then anyStatement true
  else if ← eatWord "import" then importDeclaration start
  else if ← eatWord "export" then exportDeclaration start
  else anyStatement true

end Grammar

end Syntax

end Relink
