import Relink.Syntax.Grammar.Names

/-!
# Types

Types, type parameters, the parameters of functions, and the members of object types.
-/

namespace Relink

namespace Syntax

namespace Grammar

open Syntax.Parser

/-! ## Type parameters and arguments -/

/-- The words before a type parameter, each of which needs leave where it stands. -/
def typeParameterWords (variance constant : Bool) : Parser (List String) := do
  let words ← gather (modifier?
    ["public", "private", "protected", "readonly", "abstract", "const", "override", "in", "out"])
  let marks := words.filter (· ≠ "const")
  check ([[], ["in"], ["out"], ["in", "out"]].contains marks)
  check (variance || marks.isEmpty)
  check (constant || !words.contains "const")
  pure (["const", "in", "out"].filter words.contains)

/-- A type behind a word or a mark, if it stands there. -/
def typeBehind [Nested] (here : Parser Bool) : Parser Program := do
  if ← here then
    inTypes do
      advance
      nested .type
  else
    pure absent

def typeParameter [Nested] (variance constant : Bool) : Parser Program := do
  let start ← start
  let words ← typeParameterWords variance constant
  let name ← anyName
  let constraint ← typeBehind (atWord "extends")
  let standard ← typeBehind (atMark "=")
  node start (.typeParameter words) [name, constraint, standard]

def typeParameters [Nested] (variance constant : Bool) : Parser Program := do
  let start ← start
  inTypes do
    mark "<"
    let parameters ← enclosed (commaItems ">" (typeParameter variance constant))
    node start .typeParameters parameters

/-- The parameters of a declaration that may be generic. -/
def typeParameters? [Nested] (variance constant : Bool) : Parser Program := do
  orAbsent (← atMark "<") (typeParameters variance constant)

def typeArguments [Nested] : Parser Program := do
  let start ← start
  if ← atMark "<<" then recut Scan.angle?
  let arguments ← inTypes do
    mark "<"
    enclosed (itemsBefore ">" (commaEnded ">" (nested .type)))
  mark ">"
  node start .typeArguments arguments

/-- The arguments behind the name of a type, if there are any. -/
def nameArguments? [Nested] (sameLine : Bool) : Parser Program := do
  orAbsent ((← atMark "<") && !(sameLine && (← onNewLine)))
    (within (fun context => { context with wholeAngles := false }) typeArguments)

/-! ## Parameters of functions -/

def singleParameter [Nested] : Parser Program := do
  let start ← start
  check (!(← misplacedModifier))
  let patternStart ← Parser.start
  let found ← nested .pattern
  let optional ← eatMark "?"
  let type ← ascription
  let stop := (← get).lastStop
  let reaches := found.label.kind matches .binding .. || type.label.kind ≠ .absent
  let span := if reaches then ⟨patternStart, stop⟩ else found.label.span
  let found := retyped found optional type span
  if ← eatMark "=" then
    check (!optional && !(← context).ambient)
    let right ← nested .assignment
    node start .defaulted [found, right]
  else
    pure found

/-- The rest of the parameters, which has no default value and is always there. -/
def restParameter [Nested] : Parser Program := do
  let start ← start
  mark "..."
  let inside ← nested .pattern
  let inside ←
    if ← eatMark "=" then do
      check false
      let right ← nested .assignment
      node start .defaulted [inside, right]
    else
      pure inside
  let type ← ascription
  let rest ← node start .rest [inside, type]
  check (!(← eatMark "?"))
  pure rest

def parameter [Nested] : Parser Program := do
  if ← atMark "..." then restParameter else singleParameter

def bracketed [Nested] (item : Parser Program) : Parser Program := do
  mark "("
  row <$> enclosed (itemsUntil ")" (listed ")" item))

/-- The parameters of a signature, which have no default values. -/
def signatureParameters [Nested] : Parser Program := do
  let items ← bracketed parameter
  require (items.children.all fun item => item.label.kind ≠ .defaulted)
  pure items

/-! ## Types of results -/

/-- The type of a result behind a mark, which may say something about a parameter. -/
def resultBehind [Nested] (text : String) : Parser Program := do
  let start ← start
  inTypes do
    mark text
    let place ← Parser.start
    let asserts ← if ← atWord "asserts" then isFreeWord <$> nextToken else pure false
    if asserts then advance
    let isPredicate := isFreeWord (← token) && (← wordFollows "is")
    let type ←
      if asserts || isPredicate then do
        let name ← anyName
        let type ← typeBehind (pure isPredicate)
        node place (.predicate asserts) [name, type]
      else
        nested .type
    node start .ascription [type]

/-- The type of a result behind a colon, if there is one. -/
def resultType [Nested] : Parser Program := do
  orAbsent (← atMark ":") (resultBehind ":")

def functionType [Nested] : Parser Program := do
  let start ← start
  let generics ← typeParameters? false true
  let items ← signatureParameters
  let result ← resultBehind "=>"
  node start .functionType [generics, items, result]

def constructorType [Nested] : Parser Program := do
  let start ← start
  let isAbstract ← eatWord "abstract"
  word "new"
  let generics ← typeParameters? false true
  let items ← signatureParameters
  let result ← resultBehind "=>"
  node start (.constructorType isAbstract) [generics, items, result]

/-! ## Members of object types -/

/-- Passes the end of a member of an object type. -/
def typeMemberEnd : Parser Unit := do
  if !(← eatMark ",") then semicolon

/-- Whether what stands between brackets is a name with a type. -/
def opensIndexSignature : Parser Bool := do
  if ← atMark "[" then
    finds do
      advance
      require (isFreeWord (← token))
      advance
      atMarks [":", ","]
  else
    pure false

/-- What stands between brackets and types the properties of any name. -/
def indexSignature [Nested] (start : Nat) (inClass readonly : Bool) : Parser Program := do
  mark "["
  let nameStart ← Parser.start
  let .word text := (← token).shape | failure
  advance
  let typeStart ← Parser.start
  check (!(← atMark ","))
  let type ← typeBehind (pure true)
  let type ← node typeStart .ascription [type]
  let index ← node nameStart (.binding text false) [type]
  mark "]"
  let value ← ascription
  typeMemberEnd
  node start (.indexSignature inClass readonly) [row [index], value]

def typeKey [Nested] : Parser Program := do
  let token ← token
  match token.shape with
  | .word text => leaf (.name text)
  | .string _ | .number => leaf (.name token.source)
  | .privateName _ => do
      check false
      privateName
  | .mark "[" => computedKey
  | _ => failure

/-- An accessor of an object type.  Of the parameters to set, the first one counts. -/
def accessorSignature [Nested] : Parser Program := do
  let start ← start
  if ← eatWord "get" then
    let name ← typeKey
    mark "("
    mark ")"
    let type ← ascription
    typeMemberEnd
    node start (.accessorSignature "get") [name, row [], type]
  else
    word "set"
    let name ← typeKey
    let items ← signatureParameters
    require (!items.children.isEmpty)
    typeMemberEnd
    node start (.accessorSignature "set") [name, row (items.children.take 1), absent]

/-- A property or a method of an object type. -/
def namedSignature [Nested] (start : Nat) (readonly : Bool) : Parser Program := do
  let name ← typeKey
  let optional ← eatMark "?"
  if ← atMarks ["(", "<"] then
    require (!readonly)
    let generics ← typeParameters? false true
    let items ← signatureParameters
    let result ← resultType
    typeMemberEnd
    node start (.methodSignature optional) [name, generics, items, result]
  else
    let type ← ascription
    typeMemberEnd
    node start (.propertySignature readonly optional) [name, type]

/-- A signature of the object itself, to be called or to be made with `new`. -/
def bareSignature [Nested] (start : Nat) (kind : Kind) : Parser Program := do
  let generics ← typeParameters? false true
  let items ← signatureParameters
  let result ← resultType
  typeMemberEnd
  node start kind [generics, items, result]

def typeMember [Nested] : Parser Program := do
  let start ← start
  if ← atMarks ["(", "<"] then
    bareSignature start .callSignature
  else if (← atWord "new") && ((← markFollows "(") || (← markFollows "<")) then
    advance
    bareSignature start .constructSignature
  else
    let readonly := (← modifier? ["readonly"]).isSome
    if ← opensIndexSignature then
      indexSignature start false readonly
    else
      match ← if readonly then pure none else attempt accessorSignature with
      | some member => pure member
      | none => namedSignature start readonly

/-- The members of an object type, between braces. -/
def typeMembers [Nested] (kind : Kind) : Parser Program := do
  let start ← start
  inTypes do
    mark "\x7b"
    let members ← enclosed (itemsUntil "\x7d" typeMember)
    node start kind members

/-! ## Mapped types -/

/-- Whether a type with a property for every member of another begins. -/
def opensMappedType : Parser Bool :=
  finds do
    advance
    if ← atMarks ["+", "-"] then
      advance
      atWord "readonly"
    else
      let _ ← eatWord "readonly"
      mark "["
      require (isFreeWord (← token))
      advance
      atWord "in"

/-- The sign and the word before or behind the name of a mapped type. -/
def mappedModifier (text : String) (pass : Parser Bool) : Parser String := do
  if ← atMarks ["+", "-"] then
    let sign := String.ofList (← token).source
    advance
    require (← pass)
    pure (sign ++ text)
  else
    pure (if ← pass then text else "")

/-- A type with a property for every member of another. -/
def mappedType [Nested] : Parser Program := do
  let start ← start
  mark "\x7b"
  let readonly ← mappedModifier "readonly" (eatWord "readonly")
  mark "["
  let parameterStart ← Parser.start
  let name ← anyName
  require (← atWord "in")
  let constraint ← enclosed (typeBehind (pure true))
  let parameter ← node parameterStart (.typeParameter []) [name, constraint, absent]
  let renamed ← enclosed (typeBehind (atWord "as"))
  mark "]"
  let optional ← mappedModifier "?" (eatMark "?")
  let type ← enclosed ascription
  semicolon
  mark "\x7d"
  node start (.mappedType readonly optional) [parameter, renamed, type]

/-! ## Single types -/

/-- A name with the names it is qualified by. -/
def qualifiedName (right : Parser Program) : Parser Program := do
  let start ← start
  check (!(← atWord "void"))
  let first ← anyName
  loop first fun left => do
    if ← eatMark "." then
      let right ← right
      pure (.inl (← node start .qualified [left, right]))
    else
      pure (.inr left)

/-- The name of an element of a tuple type, as a pattern. -/
def tupleLabel : Parser Program := do
  let start ← start
  let spread ← eatMark "..."
  let nameStart ← Parser.start
  let .word text := (← token).shape | failure
  advance
  let optional ← eatMark "?"
  let name ← node nameStart (.binding text optional) [absent]
  mark ":"
  if spread then node start .rest [name, absent] else pure name

def tupleElement [Nested] : Parser Program := do
  let start ← start
  let name := (← attempt tupleLabel).getD absent
  if ← eatMark "..." then
    let type ← nested .type
    let type ← node start .restType [type]
    node start .tupleElement [name, type]
  else
    let type ← nested .type
    let type ← if ← eatMark "?" then node start .optionalType [type] else pure type
    node start .tupleElement [name, type]

/-- Whether an element of a tuple type may miss, by what stands behind it. -/
def mayMiss (element : Program) : Bool :=
  element.children.any fun part => part.label.kind = .optionalType

/-- Whether an element of a tuple type has to be there. -/
def mustStand (element : Program) : Bool :=
  element.children.all fun part => part.label.kind ≠ .optionalType && part.label.kind ≠ .restType

/-- A tuple type, in which nothing that has to be there follows what may miss. -/
def tupleType [Nested] : Parser Program := do
  let start ← start
  mark "["
  let elements ← enclosed (commaItems "]" tupleElement)
  require (!(elements.dropWhile fun element => !mayMiss element).any mustStand)
  node start .tupleType elements

/-- What more is said about a module whose type is asked for. -/
def importTypeExtra [Nested] : Parser Program := do
  if ← eatMark "," then
    if ← atMark "\x7b" then
      let start ← start
      advance
      word "with"
      mark ":"
      let value ← nested .object
      let _ ← eatMark ","
      mark "\x7d"
      node start .list [value]
    else
      pure absent
  else
    pure absent

def importType [Nested] : Parser Program := do
  let start ← start
  word "import"
  mark "("
  let name ← quotedName
  let extra ← enclosed importTypeExtra
  mark ")"
  let qualifier ← orAbsent (← eatMark ".") (qualifiedName ownName)
  let generics ← nameArguments? false
  node start .importType [name, extra, qualifier, generics]

def typeQuery [Nested] : Parser Program := do
  let start ← start
  word "typeof"
  let name ← if ← atWord "import" then importType else qualifiedName anyName
  let generics ← nameArguments? true
  node start .typeQuery [name, generics]

def typeReference [Nested] : Parser Program := do
  let start ← start
  check (!(← misplacedModifier))
  let name ← qualifiedName anyName
  let generics ← nameArguments? true
  node start .typeReference [name, generics]

/-- The type of the object itself, which may say what else it is. -/
def thisType [Nested] (start : Nat) (asserts : Bool) : Parser Program := do
  let this ← leaf (.typeWord "this".toList)
  if (← atWord "is") && (asserts || !(← onNewLine)) then
    let type ← typeBehind (pure true)
    node start (.predicate asserts) [this, type]
  else if asserts then
    node start (.predicate true) [this, absent]
  else
    pure this

/-- The words that are types by themselves, unless a point follows. -/
def typeWords : List String :=
  ["any", "boolean", "bigint", "never", "number", "object", "string", "symbol", "unknown",
    "undefined", "intrinsic", "void", "null"]

/-- The keywords that a name of a type may begin with. -/
def nameableTypeWords : List String := ["void", "null", "yield", "await", "break"]

def wordType [Nested] (text : Text) : Parser Program := do
  let start ← start
  match String.ofList text with
  | "true" | "false" => leaf (.typeWord text)
  | "import" => importType
  | "typeof" => typeQuery
  | "this" => thisType start false
  | _ => do
      require (!isFixedWord text || isOneOf nameableTypeWords text)
      let next ← nextToken
      if text = "asserts".toList ∧ isWord next "this" then
        advance
        thisType start true
      else if isOneOf typeWords text ∧ !isMark next "." then
        leaf (.typeWord text)
      else
        typeReference

def negativeType : Parser Program := do
  let start ← start
  mark "-"
  let number ← token
  require (number.shape = .number || number.shape = .bigint)
  advance
  node start (.typeWord ('-' :: number.source)) []

def primaryType [Nested] : Parser Program := do
  let token ← token
  let start := token.span.start
  match token.shape with
  | .mark "(" => do
      advance
      let inside ← enclosed (nested .type)
      mark ")"
      node start .parenthesizedType [inside]
  | .mark "[" => tupleType
  | .mark "\x7b" => if ← opensMappedType then mappedType else typeMembers .typeLiteral
  | .string _ | .number | .bigint => leaf (.typeWord token.source)
  | .mark "-" => negativeType
  | .template .. => do
      let parts ← templateParts true (nested .type)
      node start (.templateType parts.pieces) parts.items
  | .word text => wordType text
  | _ => failure

/-! ## Types with operators -/

def suffixedType [Nested] : Parser Program := do
  let start ← start
  let first ← primaryType
  loop first fun type => do
    if (← atMark "[") && !(← onNewLine) then
      advance
      if ← eatMark "]" then
        pure (.inl (← node start .arrayType [type]))
      else
        let index ← enclosed (nested .type)
        mark "]"
        pure (.inl (← node start .indexedAccess [type, index]))
    else
      pure (.inr type)

/-- A name for a part of a type that is found out, with what it has to extend.  The
word belongs to a conditional type if a question mark follows. -/
def inferredType [Nested] : Parser Program := do
  let start ← start
  word "infer"
  let nameStart ← Parser.start
  let name ← anyName
  let parameterSpan := name.label.span
  let constraint ← attempt do
    word "extends"
    let type ← nested .plainType
    require ((← context).withoutConditionalType || !(← atMark "?"))
    pure type
  let parameter ← node nameStart (.typeParameter []) [name, constraint.getD absent, absent]
  let parameter := .node ⟨parameter.label.kind, parameterSpan⟩ parameter.children
  node start .inferType [parameter]

def typeOperators : List String := ["keyof", "unique", "readonly"]

def operatorType [Nested] : Parser Program := do
  let words ← gather do
    if ← atWords typeOperators then
      let place ← Parser.start
      let word := String.ofList (← token).source
      advance
      pure (some (place, word))
    else
      pure none
  let inside ← if ← atWord "infer" then inferredType else suffixedType
  words.foldrM (fun (place, word) type => node place (.typeOperator word) [type]) inside

/-- Types joined by a mark, which may also stand before the first. -/
def joinedType [Nested] (joint : String) (kind : Kind) (part : Parser Program) :
    Parser Program := do
  let start ← start
  let _ ← eatMark joint
  let first ← part
  let more ← gather do
    if ← eatMark joint then some <$> part else pure none
  if more.isEmpty then pure first else node start kind (first :: more)

/-- A union, an intersection, or a simpler type. -/
def unionType [Nested] : Parser Program :=
  joinedType "|" .unionType (joinedType "&" .intersectionType operatorType)

def opensFunctionType [Nested] : Parser Bool := do
  if ← atMark "<" then
    pure true
  else if ← atMark "(" then
    finds do
      advance
      if ← atMarks [")", "..."] then
        pure true
      else
        let _ ← misplacedModifier
        if (← atWord "this") || isFreeWord (← token) then
          advance
        else
          require (← atMarks ["\x7b", "["])
          let _ ← nested .pattern
        if ← atMarks [":", ",", "?", "="] then
          pure true
        else
          mark ")"
          atMark "=>"
  else
    pure false

/-- A type that is not chosen by a condition. -/
def plainType [Nested] : Parser Program := do
  if ← opensFunctionType then
    functionType
  else if (← atWord "new") || ((← atWord "abstract") && isWord (← nextToken) "new") then
    constructorType
  else
    unionType

def wholeType [Nested] : Parser Program := do
  let start ← start
  let checked ← plainType
  if !(← context).withoutConditionalType && !(← onNewLine) && (← atWord "extends") then
    advance
    let bound ← within (fun context => { context with withoutConditionalType := true })
      (nested .plainType)
    let free := within fun context => { context with withoutConditionalType := false }
    mark "?"
    let yes ← free (nested .type)
    mark ":"
    let no ← free (nested .type)
    node start .conditionalType [checked, bound, yes, no]
  else
    pure checked

end Grammar

end Syntax

end Relink
