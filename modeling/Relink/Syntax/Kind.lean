import Relink.Tree

/-!
# Kinds of syntax nodes

What a node of a parsed program is.  A kind carries the words and flags that belong
to the node itself; the parts follow as children in the order in which they are
written.  A part that may miss is present as `absent`, and a row of parts is gathered
under `list`.
-/

namespace Relink

namespace Syntax

/-- The words that may stand before a member of a class. -/
structure Modifiers where
  declare : Bool
  access : Option String
  isStatic : Bool
  isAbstract : Bool
  override : Bool
  readonly : Bool
  accessor : Bool
  async : Bool
  generator : Bool
  getOrSet : Option String
  optional : Bool
  definite : Bool
deriving DecidableEq, Repr, Inhabited

def Modifiers.none : Modifiers :=
  ⟨false, .none, false, false, false, false, false, false, false, .none, false, false⟩

/-- How a member or a call hangs on a value: plainly, only if the value is there, or
further along a chain that may end early. -/
inductive Link
  | plain
  | optional
  | chained
deriving DecidableEq, Repr, Inhabited

/-- What a syntax node is. -/
inductive Kind
  -- parts
  | absent
  | list
  | name (text : Text)
  -- modules
  | module (interpreter : Option Text)
  | importDeclaration (typeOnly : Bool) (phase : Option String)
  | importDefault
  | importNamespace
  | importNamed (typeOnly : Bool)
  | exportNamed (typeOnly : Bool)
  | exportSpecifier (typeOnly : Bool)
  | exportNamespace
  | exportAll (typeOnly : Bool)
  | exported (asDefault : Bool)
  | exportedValue (assigned : Bool)
  | exportAsNamespace
  | importEquals (exported typeOnly : Bool)
  | externalModule
  -- statements
  | expressionStatement
  | emptyStatement
  | block
  | declaredVariables (word : String) (declare : Bool)
  | resources (awaited : Bool)
  | declarator
  | ifElse
  | whileLoop
  | doWhile
  | forLoop
  | forIn
  | forOf (awaited : Bool)
  | leave (word : String)
  | labeled
  | switchOver
  | switchCase
  | tryCatch
  | catchClause
  -- functions and classes
  | functionDeclaration (async generator declare : Bool)
  | functionExpression (async generator : Bool)
  | arrow (async : Bool)
  | classDeclaration (isAbstract declare : Bool)
  | classExpression
  | method (modifiers : Modifiers)
  | constructorMember (access : Option String)
  | property (modifiers : Modifiers)
  | staticBlock
  | emptyMember
  | parameterProperty (modifiers : Modifiers)
  -- object literals
  | object
  | keyValue
  | objectMethod (async generator : Bool)
  | objectAccessor (word : String)
  | coverInitializer
  | spread
  | computed
  -- expressions
  | reference (name : Text)
  | literal (raw : Text)
  | number (raw : Text)
  | special (text : Text)
  | superclass
  | template (pieces : List Text)
  | tagged
  | array
  | sequence
  | parenthesized
  | unary (operator : String)
  | update (operator : String) (before : Bool)
  | binary (operator : String)
  | assign (operator : String)
  | conditional
  | yielded (delegate : Bool)
  | awaited
  | member (link : Link)
  | index (link : Link)
  | call (link : Link)
  | importCall (phase : Option String)
  | newCall
  | typed (word : String)
  | nonNull
  | assertion
  | instantiation
  -- markup
  | markup
  | markupOpening (selfClosing : Bool)
  | markupAttribute
  | markupSpread
  | markupContainer
  | markupEmpty
  | markupText (value : Text)
  -- patterns
  | binding (name : Text) (optional : Bool)
  | arrayPattern (optional : Bool)
  | objectPattern (optional : Bool)
  | defaulted
  | rest
  | patternEntry
  | patternShorthand
  -- types
  | ascription
  | typeWord (text : Text)
  | typeReference
  | qualified
  | typeArguments
  | typeParameters
  | typeParameter (words : List String)
  | arrayType
  | tupleType
  | tupleElement
  | optionalType
  | restType
  | unionType
  | intersectionType
  | functionType
  | constructorType (isAbstract : Bool)
  | conditionalType
  | inferType
  | typeOperator (word : String)
  | indexedAccess
  | mappedType (readonly optional : String)
  | typeLiteral
  | templateType (pieces : List Text)
  | typeQuery
  | importType
  | parenthesizedType
  | predicate (asserts : Bool)
  | propertySignature (readonly optional : Bool)
  | methodSignature (optional : Bool)
  | accessorSignature (word : String)
  | callSignature
  | constructSignature
  | indexSignature (inClass readonly : Bool)
  -- declarations of types and namespaces
  | interfaceDeclaration (declare : Bool)
  | interfaceBody
  | heritage
  | typeAlias (declare : Bool)
  | enumDeclaration (declare constant : Bool)
  | enumMember
  | namespaceDeclaration (word : String) (declare : Bool)
  | moduleBlock
deriving DecidableEq, Repr, Inhabited

/-- The label of a syntax node: what it is and where it stands. -/
structure Label where
  kind : Kind
  span : Span
deriving DecidableEq, Repr, Inhabited

abbrev Program := Tree Label

def absent : Program := .node ⟨.absent, ⟨0, 0⟩⟩ []

def row (parts : List Program) : Program := .node ⟨.list, ⟨0, 0⟩⟩ parts

end Syntax

end Relink
