import Relink.Syntax.Grammar.Functions

/-!
# Classes

Members and heads of classes.  A word that may stand before a member may also be the
name of one, which what follows it tells.
-/

namespace Relink

namespace Syntax

namespace Grammar

open Syntax.Parser

/-! ## Names of members -/

def memberKey [Nested] : Parser Program := do
  match (← token).shape with
  | .privateName text => do
      check (text ≠ "#constructor".toList)
      privateName
  | _ => key

def isPrivate (name : Program) : Bool :=
  match name.label.kind with
  | .name text => text.head? = some '#'
  | _ => false

/-- Whether the name of a member is that of the constructor. -/
def namesConstructor (name : Program) : Bool :=
  match name.label.kind with
  | .name text => isOneOf ["constructor", "'constructor'", "\"constructor\""] text
  | _ => false

/-- Whether a method follows its name at the cursor. -/
def atMethod : Parser Bool := atMarks ["(", "<"]

/-- Whether a property ends or goes on behind its name at the cursor.  `loose` says that
it may end without a semicolon. -/
def atProperty (loose : Bool) : Parser Bool := do
  if ← atMarks ["!", ":", "=", "\x7d", ";"] then pure true
  else if loose then atEnd
  else pure false

/-! ## Methods and properties -/

/-- Whether the parameters of an accessor fit: none to get a value and a single one to
set it, besides the object itself. -/
def accessorFits (getOrSet : Option String) (items : Program) : Bool :=
  let given := items.children.filter fun item =>
    match item.label.kind with
    | .binding name _ => name ≠ "this".toList
    | _ => true
  match getOrSet with
  | none => true
  | some word =>
      if word = "get" then given.isEmpty
      else given.length = 1 && !items.children.head?.any isRest

def methodMember [Nested] (start : Nat) (modifiers : Modifiers) (name : Program) :
    Parser Program := do
  let parts ← functionRest modifiers.async modifiers.generator parameter
  let described := (bodyOf parts).label.kind = .absent
  check (accessorFits modifiers.getOrSet (parts.getD 1 absent))
  check (if isPrivate name then modifiers.access.isNone else !modifiers.isAbstract || described)
  node start (.method modifiers) (name :: parts)

def propertyMember [Nested] (start : Nat) (modifiers : Modifiers) (name : Program) :
    Parser Program := do
  require (!namesConstructor name)
  let declares := modifiers.declare || modifiers.isAbstract
  let accessible := modifiers.access.isSome && !modifiers.accessor
  check (!(isPrivate name && (declares || accessible)))
  let definite ← if modifiers.optional then pure false else eatMark "!"
  let modifiers := { modifiers with definite := definite }
  let type ← ascription
  let value ← orAbsent (← atMark "=")
    (within (fun context => { context with inClassField := true }) defaultValue)
  check (← atEnd)
  let _ ← eatMark ";"
  let isPlain := !isPrivate name && !modifiers.accessor
  check (!(modifiers.isAbstract && isPlain && value.label.kind ≠ .absent))
  node start (.property modifiers) [name, type, value]

/-- The member named by a word that was passed, none if the word is no name.  `loose`
says that a property may end behind it without a semicolon, and `marked` that it may be
marked as optional. -/
def wordMember? [Nested] (start : Nat) (modifiers : Modifiers) (name : Program)
    (loose marked : Bool) : Parser (Option Program) := do
  if ← atMethod then
    some <$> methodMember start modifiers name
  else if (← atProperty loose) || (marked && (← atMark "?")) then
    let optional ← if marked then eatMark "?" else pure false
    some <$> propertyMember start { modifiers with optional := optional } name
  else
    pure none

/-- A word before a member with the modifiers it makes, or the member it names. -/
inductive Passed
  | modifiers (modifiers : Modifiers)
  | member (member : Program)

/-- Passes a word that may be a modifier or the name of a member. -/
def passWord [Nested] (start : Nat) (modifiers changed : Modifiers) (word : String)
    (loose marked : Bool) : Parser Passed := do
  if ← atWord word then
    let name ← anyName
    match ← wordMember? start modifiers name loose marked with
    | some member => pure (.member member)
    | none => pure (.modifiers changed)
  else
    pure (.modifiers modifiers)

/-! ## Modifiers -/

def accessModifier : Parser (Option String) := do
  let word ← modifier? ["public", "protected", "private", "in", "out"]
  check (!(word = some "in" || word = some "out"))
  pure word

/-- Whether one more word may stand behind the modifiers. -/
def admits (context : Context) (modifiers : Modifiers) (word : String) : Bool :=
  match word with
  | "abstract" => !modifiers.isAbstract && !modifiers.override
  | "override" =>
      !modifiers.override && !modifiers.readonly && !modifiers.declare && context.hasSuperclass
  | "readonly" => !modifiers.readonly
  | _ => !modifiers.override

def addModifier (modifiers : Modifiers) (word : String) : Modifiers :=
  match word with
  | "abstract" => { modifiers with isAbstract := true }
  | "override" => { modifiers with override := true }
  | "readonly" => { modifiers with readonly := true }
  | _ => { modifiers with isStatic := true }

/-- Whether a block that runs when the class is made begins with its word. -/
def atStaticBlock : Parser Bool := do
  pure ((← atWord "static") && (← markFollows "\x7b"))

/-- The modifiers that stand in any order behind the others. -/
def looseModifiers (modifiers : Modifiers) : Parser Modifiers :=
  loop modifiers fun modifiers => do
    let word ← if ← atStaticBlock then pure none
      else modifier? ["abstract", "readonly", "override", "static"]
    match word with
    | some word => do
        check (admits (← context) modifiers word)
        pure (.inl (addModifier modifiers word))
    | none => pure (.inr modifiers)

/-! ## Members -/

/-- A parameter of a constructor, which may make a property. -/
def constructorParameter [Nested] : Parser Program := do
  if ← atMark "..." then
    let start ← start
    advance
    let inside ← nested .pattern
    let type ← ascription
    node start .rest [inside, type]
  else
    let start ← start
    let access ← accessModifier
    let override := (← modifier? ["override"]).isSome
    let readonly := (← modifier? ["readonly"]).isSome
    let modifiers :=
      { Modifiers.none with access := access, override := override, readonly := readonly }
    let inside ← singleParameter
    if modifiers = Modifiers.none then
      pure inside
    else
      require (inside.label.kind matches .binding .. | .defaulted)
      node start (.parameterProperty modifiers) [inside]

/-- Whether a parameter of a constructor needs a body: it makes a property, or it has a
default value. -/
def needsBody (parameter : Program) : Bool :=
  parameter.label.kind matches .parameterProperty _ | .defaulted

/-- The constructor of a class behind its name. -/
def constructorMember [Nested] (start : Nat) (modifiers : Modifiers) (isStatic : Bool) :
    Parser Program := do
  check (!modifiers.override && !modifiers.isAbstract && !isStatic && !modifiers.declare)
  let generics ← typeParameters? false true
  check (generics.label.kind = .absent)
  let items ← bracketed constructorParameter
  let result ← ascription
  check (result.label.kind = .absent)
  let body ←
    if ← atMark "\x7b" then functionBody false false items
    else do
      semicolon
      check (!items.children.any needsBody)
      pure absent
  node start (.constructorMember modifiers.access) [items, body]

/-- A block that runs when the class is made. -/
def staticBlock [Nested] (start : Nat) : Parser Program := do
  let body ← within (fun context => { context with inClassField := true }) block
  node start .staticBlock [body]

/-- A member of a class whose name is the word of an accessor or of an asynchronous
method, and which goes on. -/
def methodBehindWord [Nested] (start : Nat) (modifiers : Modifiers) (word : String) :
    Parser Program := do
  if word = "async" then
    let override := (← modifier? ["override"]).isSome
    check (!override)
    let generator ← eatMark "*"
    let name ← memberKey
    require (!namesConstructor name)
    check (!modifiers.readonly)
    let optional ← eatMark "?"
    methodMember start
      { modifiers with
        async := true
        generator := generator
        override := modifiers.override || override
        optional := modifiers.optional || optional } name
  else
    let name ← memberKey
    check (!modifiers.readonly && !namesConstructor name)
    methodMember start { modifiers with getOrSet := some word } name

/-- A member of a class behind the modifiers.  `isStatic` says that the first of them
make it belong to the class itself. -/
def namedMember [Nested] (start : Nat) (modifiers : Modifiers) (isStatic : Bool) :
    Parser Program := do
  let whole := { modifiers with isStatic := isStatic }
  if ← eatMark "*" then
    let name ← memberKey
    check (!modifiers.readonly && !namesConstructor name)
    methodMember start { whole with generator := true } name
  else
    let named := modifiers.readonly && (← atMarks ["!", ":"])
    let here ← token
    let name ← if named then node here.span.start (.name "readonly".toList) [] else memberKey
    let optional ← eatMark "?"
    let whole := { whole with optional := optional }
    if ← atMethod then
      require (!modifiers.readonly)
      if namesConstructor name then constructorMember start modifiers isStatic
      else do
        check (!modifiers.declare)
        methodMember start whole name
    else
      let onNewLine ← onNewLine
      let behindLine := onNewLine && (← atMark "*")
      let isAccessor := (isWord here "get" || isWord here "set") &&
        !(← atProperty false) && !behindLine
      if !isAccessor && (← atProperty true) then
        propertyMember start { modifiers with optional := optional } name
      else if isAccessor then
        methodBehindWord start whole (if isWord here "get" then "get" else "set")
      else
        require (isWord here "async" && !onNewLine)
        methodBehindWord start whole "async"

/-- A member of a class behind the words for its access and its place. -/
def modifiedMember [Nested] (start : Nat) (modifiers : Modifiers) : Parser Program := do
  let isStatic := modifiers.isStatic
  let found ← looseModifiers modifiers
  let loose := found ≠ modifiers
  match ← passWord start found { found with accessor := true } "accessor" true true with
  | .member member => pure member
  | .modifiers found => do
      if found.isStatic && (← atMark "\x7b") then
        check (!found.declare && found.access.isNone)
        staticBlock start
      else if ← atStaticBlock then
        check (!loose && !isStatic)
        advance
        staticBlock start
      else if !found.isAbstract && !found.override && found.access.isNone &&
          (← opensIndexSignature) then
        indexSignature start true found.readonly
      else
        namedMember start found isStatic

def classMember [Nested] : Parser Program := do
  let start ← start
  let declared := { Modifiers.none with declare := true }
  if ← atMark ";" then
    leaf .emptyMember
  else
    match ← passWord start .none declared "declare" true false with
    | .member member => pure member
    | .modifiers found => do
        let found := { found with access := ← accessModifier }
        let declared := { found with declare := true }
        let again ← if found.declare then pure (.modifiers found)
          else passWord start found declared "declare" true false
        match again with
        | .member member => pure member
        | .modifiers found => do
            match ← passWord start found { found with isStatic := true } "static" false true with
            | .member member => pure member
            | .modifiers found => modifiedMember start found

/-- Whether a member is a constructor with a body. -/
def isFullConstructor (member : Program) : Bool :=
  match member.label.kind, member.children with
  | .constructorMember _, [_, body] => body.label.kind ≠ .absent
  | _, _ => false

/-- The members of a class, between braces.  One constructor at most has a body. -/
def classBody [Nested] (hasSuperclass : Bool) : Parser (List Program) := do
  mark "\x7b"
  let members ← within (fun context => { context with hasSuperclass := hasSuperclass })
    (enclosed (itemsBefore "\x7d" classMember))
  mark "\x7d"
  check ((← context).ambient || (members.filter isFullConstructor).length ≤ 1)
  pure members

/-! ## Heads -/

/-- A class or an interface that another is based on. -/
def heritage [Nested] : Parser Program := do
  let start ← start
  let value ← nested .entity
  let (name, generics) ←
    match value with
    | .node ⟨.instantiation, _⟩ [name, generics] => pure (name, generics)
    | value => pure (value, ← orAbsent (← atMark "<") typeArguments)
  check (name.label.kind matches .reference _ | .member .plain)
  node start .heritage [name, generics]

def heritages [Nested] : Parser (List Program) :=
  let atClose : Parser Bool := do
    pure ((← atMark "\x7b") || (← atWords ["implements", "extends"]))
  gather do
    if ← atClose then
      pure none
    else
      let parent ← heritage
      if !(← atClose) then mark ","
      pure (some parent)

/-- The class that another extends, with its type arguments. -/
def superclass [Nested] : Parser (Program × Program) := do
  match ← nested .subject with
  | .node ⟨.instantiation, _⟩ [value, generics] => pure (value, generics)
  | value => pure (value, ← orAbsent (← atMark "<") typeArguments)

/-- The names that are types everywhere and cannot be declared. -/
def typeNames : List String :=
  ["string", "null", "number", "object", "any", "unknown", "boolean", "bigint", "symbol",
    "void", "never", "intrinsic"]

def isTypeName (name : Program) : Bool :=
  match name.label.kind with
  | .name text => !isOneOf typeNames text
  | _ => true

/-- Passes more classes or interfaces than a head has room for. -/
def spareHeads [Nested] : Parser Unit := do
  if ← eatWord "implements" then
    check false
    let _ ← heritages
  if ← eatWord "extends" then
    check false
    let _ ← superclass

/-- Whether a member is only described, as those of an abstract class may be. -/
def isAbstractMember (member : Program) : Bool :=
  match member.label.kind, member.children with
  | .method modifiers, name :: _ => modifiers.isAbstract && !isPrivate name
  | .property modifiers, name :: _ =>
      modifiers.isAbstract && !modifiers.accessor && !isPrivate name
  | _, _ => false

def classParts [Nested] (isAbstract named : Bool) : Parser (List Program) := do
  word "class"
  let name ← if named then boundName else optionalName
  check (isTypeName name)
  let generics ← typeParameters? true true
  let (parent, arguments) ←
    if ← eatWord "extends" then superclass else pure (absent, absent)
  let hasParent := parent.label.kind ≠ .absent
  if hasParent then
    if ← eatMark "," then
      check (← heritages).isEmpty
  if ← eatWord "extends" then
    check false
    let _ ← superclass
  let interfaces ← if ← eatWord "implements" then heritages else pure []
  spareHeads
  let members ← classBody hasParent
  check (isAbstract || !members.any isAbstractMember)
  pure [name, generics, parent, arguments, row interfaces, row members]

def classExpression [Nested] : Parser Program := do
  let start ← start
  let parts ← classParts false false
  node start .classExpression parts

/-- A class as a declaration, behind the word for an abstract one.  The name may miss
behind `export default`. -/
def classDeclaration [Nested] (start : Nat) (isAbstract declare named : Bool) :
    Parser Program := do
  let parts ← classParts isAbstract named
  node start (.classDeclaration isAbstract declare) parts

end Grammar

end Syntax

end Relink
