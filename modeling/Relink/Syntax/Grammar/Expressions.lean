import Relink.Syntax.Grammar.Arrows
import Relink.Syntax.Grammar.Objects

/-!
# Expressions

Expressions from single values up to assignments.  Operators of the same precedence
group to the left, except for powers.  An import call whose first argument is a plain
literal is a request.
-/

namespace Relink

namespace Syntax

namespace Grammar

open Syntax.Parser

/-! ## Calls -/

/-- An argument of a call, which may be spread. -/
def argument [Nested] : Parser Program := do
  let start ← start
  if ← eatMark "..." then
    let value ← withIn (nested .assignment)
    node start .spread [value]
  else
    withIn (nested .assignment)

def arguments [Nested] : Parser (List Program) := do
  mark "("
  enclosed (commaItems ")" argument)

/-- The literal that a token would make as the whole of a value. -/
def slotOfToken? (token : Token) : Option Literal :=
  match token.shape with
  | .string value => some (.string token.span value (some token.source))
  | .template cooked piece true =>
      some (.template token.span
        ⟨⟨token.span.start + 1, token.span.stop - 1⟩, true, cooked, piece⟩ [])
  | _ => none

/-- Whether a value is no more than the literal of a token. -/
def isPlainLiteral (value : Program) (token : Token) : Bool :=
  match value.label.kind with
  | .literal _ | .template _ => value.label.span = token.span
  | _ => false

/-- A call that imports a module, in one phase of it or as a whole. -/
def importCall [Nested] (start : Nat) (phase : Option String) : Parser Program := do
  require (← atMark "(")
  let token ← nextToken
  let spread := isMark token "..."
  let literal ← if spread then given (← lookAhead (advance *> nextToken)) else pure token
  let parts ← arguments
  let call ← node start (.importCall phase) parts
  match parts with
  | first :: more =>
      let value := if spread then first.children.headD absent else first
      match slotOfToken? literal with
      | some slot =>
          if isPlainLiteral value literal then
            let spreadSpan := if spread then some token.span else none
            pure (.request (.importCall spreadSpan) call.label slot more)
          else
            pure call
      | none => pure call
  | [] => pure call

/-! ## Single values -/

/-- A template, with a tag or without one.  Without one every escape needs a meaning. -/
def templateLiteral [Nested] (tagged : Bool) : Parser Program := do
  let start ← start
  let parts ← templateParts (!tagged) (nested .expression)
  node start (.template parts.pieces) parts.items

/-- A list literal, in which values may be left out. -/
def arrayLiteral [Nested] : Parser Program := do
  let start ← start
  mark "["
  let elements ← enclosed (itemsBefore "]" do
    if ← eatMark "," then
      pure absent
    else
      let element ← argument
      if !(← atMark "]") then
        mark ","
        if ← atMark "]" then
          modify fun cursor => { cursor with trailingCommas := start :: cursor.trailingCommas }
      pure element)
  mark "]"
  node start .array elements

def regexLiteral : Parser Program := do
  recut fun text => Scan.regex? (text.drop 1)
  let token ← token
  let fits := token.shape matches .regex true
  check fits
  leaf (.literal token.source)

/-- A value that a name stands for, or an arrow function that begins with the name. -/
def nameValue [Nested] : Parser Program := do
  let start ← start
  let text ← ownWord
  let arrow ← mayBeginArrow start
  advance
  let span : Span := ⟨start, (← get).lastStop⟩
  let sameLine := !(← onNewLine)
  if arrow && sameLine && text = "async".toList && isFreeWord (← token) then
    let parameterSpan := (← token).span
    let parameter ← boundWord
    advance
    namedArrow start true parameter parameterSpan
  else if arrow && sameLine && (← atMark "=>") then
    namedArrow start false text span
  else
    node start (.reference text) []

/-- The value that the word for asynchronous functions begins. -/
def asyncValue [Nested] : Parser Program := do
  let start ← start
  let arrow ← mayBeginArrow start
  let next ← nextToken
  if ← atAsyncFunction then
    functionExpression
  else
    match ← if arrow && isMark next "<" then attempt genericAsyncArrow else pure none with
    | some value => pure value
    | none =>
        if arrow && isMark next "(" && !next.onNewLine then
          advance
          nested (.brackets (some start))
        else
          nameValue

def wordValue [Nested] (text : Text) : Parser Program := do
  match String.ofList text with
  | "function" => functionExpression
  | "class" => classExpression
  | "this" => leaf (.special text)
  | "null" | "true" | "false" => leaf (.literal text)
  | "async" => asyncValue
  | _ => nameValue

def primary [Nested] : Parser Program := do
  let token ← token
  match token.shape with
  | .word text => wordValue text
  | .number => leaf (.number token.source)
  | .string _ | .bigint => leaf (.literal token.source)
  | .privateName text => leaf (.special text)
  | .template .. => templateLiteral false
  | .mark "(" => nested (.brackets none)
  | .mark "[" => arrayLiteral
  | .mark "\x7b" => objectLiteral
  | .mark "/" | .mark "/=" => regexLiteral
  | _ => failure

/-! ## Members and calls -/

def memberName : Parser Program := do
  match (← token).shape with
  | .privateName _ => privateName
  | _ => anyName

def linkTo (optional : Bool) (value : Program) : Link :=
  if optional then .optional else if Target.isChain value then .chained else .plain

def beginsValue (token : Token) : Bool :=
  match token.shape with
  | .word text =>
      !isReserved text || isOneOf ["this", "super", "null", "true", "false", "function",
        "class", "new", "delete", "typeof", "void", "await", "yield"] text
  | .number | .bigint | .string _ | .template .. | .privateName _ => true
  | .mark text => ["(", "[", "\x7b", "+", "-", "~", "!", "++", "--", "<"].contains text
  | _ => false

/-- Whether type arguments stay behind a value without a call when a token follows. -/
def endsInstantiation (token : Token) : Bool :=
  match token.shape with
  | .template .. => false
  | .mark text =>
      !(["<", ">", "+", "-", "("].contains text) &&
        (token.onNewLine || joiningMarks.contains text || !beginsValue token)
  | _ => token.onNewLine || !beginsValue token

/-- What a value is followed by. -/
inductive Followed
  | longer (value : Program)
  | complete (value : Program)
  | nothing

/-- Type arguments behind a value, with the call or the template they are for. -/
def genericLink [Nested] (calls : Bool) (start : Nat) (value : Program) :
    Parser Followed := do
  let generics ← within (fun context => { context with wholeAngles := true }) typeArguments
  let next ← token
  if calls && isMark next "(" then
    let parts ← arguments
    .longer <$> node start (.call (linkTo false value)) [value, generics, row parts]
  else if next.shape matches .template .. then
    let template ← templateLiteral true
    .longer <$> node start .tagged [value, generics, template]
  else
    require (endsInstantiation next)
    .complete <$> node start .instantiation [value, generics]

/-- A link that is only followed if the value is there. -/
def optionalLink [Nested] (start : Nat) (value : Program) : Parser Program := do
  if ← eatMark "[" then
    let index ← enclosed (nested .expression)
    mark "]"
    node start (.index .optional) [value, index]
  else if ← atMarks ["(", "<", "<<"] then
    let generics ← orAbsent (!(← atMark "(")) typeArguments
    let parts ← arguments
    node start (.call .optional) [value, generics, row parts]
  else
    let name ← memberName
    node start (.member .optional) [value, name]

/-- A link behind a value.  `calls` says that it may be a call, and `computed` that it
may stand in brackets. -/
def link [Nested] (calls computed : Bool) (start : Nat) (value : Program) :
    Parser Followed := do
  let token ← token
  match token.shape with
  | .mark "!" =>
      if token.onNewLine then pure .nothing
      else do
        advance
        .longer <$> node start .nonNull [value]
  | .mark "<" | .mark "<<" => do
      pure ((← attempt (genericLink calls start value)).getD .nothing)
  | .mark "?." => do
      advance
      .longer <$> optionalLink start value
  | .mark "[" =>
      if computed then do
        advance
        let index ← enclosed (nested .expression)
        mark "]"
        .longer <$> node start (.index (linkTo false value)) [value, index]
      else
        pure .nothing
  | .mark "(" =>
      if calls then do
        let parts ← arguments
        .longer <$> node start (.call (linkTo false value)) [value, absent, row parts]
      else
        pure .nothing
  | .mark "." => do
      advance
      let isPrivate := (← Parser.token).shape matches .privateName _
      check (!(isPrivate && value.label.kind = .superclass))
      let name ← memberName
      .longer <$> node start (.member (linkTo false value)) [value, name]
  | .template .. => do
      check (!Target.isChain value)
      let template ← templateLiteral true
      .longer <$> node start .tagged [value, absent, template]
  | _ => pure .nothing

def links [Nested] (calls computed : Bool) (start : Nat) (value : Program) :
    Parser Program :=
  loop value fun value => do
    match ← link calls computed start value with
    | .longer value => pure (.inl value)
    | .complete value => pure (.inr value)
    | .nothing => pure (.inr value)

/-- The class above, of which a member or its constructor is meant. -/
def superValue [Nested] (calls : Bool) : Parser Program := do
  let start ← start
  advance
  let value ← node start .superclass []
  let follows ← atMarks (if calls then ["(", ".", "["] else [".", "["])
  require follows
  links calls true start value

/-- What the word `import` begins where a value stands. -/
def importValue [Nested] (calls : Bool) : Parser Program := do
  let start ← start
  advance
  if ← eatMark "." then
    if ← eatWord "meta" then
      let value ← node start (.special "import.meta".toList) []
      links calls true start value
    else
      require (calls && (← atWords ["defer", "source"]))
      let phase := String.ofList (← token).source
      advance
      let value ← importCall start (some phase)
      links calls true start value
  else
    require calls
    let value ← importCall start none
    links calls true start value

/-- An instance of a class, behind the word for it. -/
def newValue [Nested] (start : Nat) : Parser Program := do
  if ← eatMark "." then
    word "target"
    let context ← context
    check (context.inPlainFunction || context.inParameters || context.inClassField)
    let value ← node start (.special "new.target".toList) []
    links false true start value
  else
    let callee ← nested .members
    let isChain := match callee.label.kind with
      | .member link | .index link | .call link => link ≠ .plain
      | _ => false
    require (!isChain)
    let generics ← if ← atMarks ["<", "<<"] then
        attempt do
          let generics ← within (fun context => { context with wholeAngles := false })
            typeArguments
          require (← atMark "(")
          pure generics
      else pure none
    let generics := generics.getD absent
    if ← atMark "(" then
      let parts ← arguments
      let value ← node start .newCall [callee, generics, row parts]
      links false true start value
    else
      node start .newCall [callee, generics, absent]

/-- A value with the members behind it, up to the first call. -/
def members [Nested] : Parser Program :=
  within (fun context => { context with wholeAngles := true }) do
    let start ← start
    if ← eatWord "new" then newValue start
    else if ← atWord "super" then superValue false
    else if ← atWord "import" then importValue false
    else
      let first ← primary
      if isArrow first then pure first else links false true start first

/-- A name with the members behind it that are called by name. -/
def entity [Nested] : Parser Program := do
  let start ← start
  let .word text := (← token).shape | failure
  let first ← leaf (.reference text)
  links false false start first

/-- Whether a value is an instance that was made without arguments. -/
def isBareInstance (value : Program) : Bool :=
  match value.label.kind, value.children with
  | .newCall, [_, _, arguments] => arguments.label.kind = .absent
  | _, _ => false

/-- A value with the members and calls behind it. -/
def subject [Nested] : Parser Program := do
  let start ← start
  if (← context).markup && (← atMark "<") && !(← markFollows "!") then
    nested (.markup false)
  else if ← atWord "super" then
    superValue true
  else if ← atWord "import" then
    importValue true
  else
    let callee ← members
    if isArrow callee then
      pure callee
    else
      let generics ← if ← atMarks ["<", "<<"] then
          attempt do
            let generics ← typeArguments
            require (← atMark "(")
            pure generics
        else pure none
      if isBareInstance callee then
        require generics.isNone
        pure callee
      else if ← atMark "(" then
        let parts ← arguments
        let call ← node start (.call (linkTo false callee))
          [callee, generics.getD absent, row parts]
        links true true start call
      else
        pure callee

/-! ## Operators -/

/-- The operators written before their operand. -/
def unaryMarks : List String := ["+", "-", "~", "!"]

/-- The operators that are words before their operand. -/
def unaryWords : List String := ["delete", "typeof", "void"]

/-- Whether a value can be deleted: a member, unless of the class above. -/
def isDeletable : Program → Bool
  | .node ⟨.parenthesized, _⟩ [inside] => isDeletable inside
  | .node ⟨.member _, _⟩ (value :: _) => value.label.kind ≠ .superclass
  | .node ⟨.index _, _⟩ (value :: _) => value.label.kind ≠ .superclass
  | _ => false

/-- The text of the token at the cursor, which is passed, as an operator. -/
def operatorText : Parser String := do
  let text := String.ofList (← token).source
  advance
  pure text

def assertion [Nested] : Parser Program := do
  let start ← start
  mark "<"
  if (← atWord "const") && (← markFollows ">") then
    advance
    mark ">"
    let value ← nested .unary
    node start (.typed "as const") [value]
  else
    let type ← inTypes (nested .type)
    mark ">"
    let value ← nested .unary
    node start .assertion [type, value]

def awaited [Nested] : Parser Program := do
  let start ← start
  word "await"
  let context ← context
  require (!(← atMark "*"))
  check (!(context.inFunction && !context.inAsync))
  check (!(context.inParameters && !context.inFunction))
  let value ← nested .unary
  node start .awaited [value]

/-- A value with an increment or a decrement behind it, if there is one. -/
def updated [Nested] : Parser Program := do
  let start ← start
  let value ← subject
  let updates ← atMarks ["++", "--"]
  if updates && !isArrow value && !(← onNewLine) then
    Target.checkSimple false value
    let operator ← operatorText
    node start (.update operator false) [value]
  else
    pure value

def unary [Nested] : Parser Program := do
  let start ← start
  if !(← context).markup && (← atMark "<") then
    assertion
  else if ← atMarks ["++", "--"] then
    let operator ← operatorText
    let value ← nested .unary
    Target.checkSimple false value
    node start (.update operator true) [value]
  else if (← atMarks unaryMarks) || (← atWords unaryWords) then
    let operator ← operatorText
    let value ← nested .unary
    check (operator ≠ "delete" || isDeletable value)
    node start (.unary operator) [value]
  else if ← atWord "await" then
    awaited
  else
    updated

/-- The precedence of an operator between two operands. -/
def precedence? (operator : String) : Option Nat :=
  match operator with
  | "??" | "||" => some 1
  | "&&" => some 2
  | "|" => some 3
  | "^" => some 4
  | "&" => some 5
  | "==" | "!=" | "===" | "!==" => some 6
  | "<" | ">" | "<=" | ">=" | "in" | "instanceof" => some 7
  | "<<" | ">>" | ">>>" => some 8
  | "+" | "-" => some 9
  | "*" | "/" | "%" => some 10
  | "**" => some 11
  | _ => none

/-- The operator between two operands at the cursor. -/
def operatorHere : Parser (Option String) := do
  match (← token).shape with
  | .mark text => pure (some text)
  | .word text =>
      if text = "instanceof".toList then pure (some "instanceof")
      else if text = "in".toList ∧ !(← context).withoutIn then pure (some "in")
      else pure none
  | _ => pure none

/-- Whether a value is made by the logical operators that need brackets beside `??`. -/
def isLogical (value : Program) : Bool :=
  value.label.kind = .binary "&&" || value.label.kind = .binary "||"

/-- Whether a value cannot be raised to a power without brackets. -/
def isNoBase (value : Program) : Bool :=
  value.label.kind matches .unary _ | .awaited

/-- A value seen as being of a type, behind the word for it. -/
def typedValue [Nested] (word : String) (value : Program) : Parser Program := do
  let start := value.label.span.start
  let next ← nextToken
  if word = "as" ∧ isWord next "const" then
    advance
    advance
    node start (.typed "as const") [value]
  else
    let type ← inTypes do
      advance
      nested .type
    if !(← context).singleAngles && (← atMarks ["<", ">"]) then recut Scan.wholeAngle?
    node start (.typed word) [value, type]

/-- What an operand goes on to with operators that bind closer than `minimum`. -/
def operands [Nested] (minimum : Nat) (first : Program) : Parser Program :=
  loop first fun left => do
    let sameLine := !(← onNewLine)
    if sameLine && minimum < 7 && (← atWord "as") then
      .inl <$> typedValue "as" left
    else if sameLine && (← atWord "satisfies") then
      .inl <$> typedValue "satisfies" left
    else
      match ← operatorHere with
      | none => pure (.inr left)
      | some operator =>
          match precedence? operator with
          | none => pure (.inr left)
          | some level =>
              if level ≤ minimum then
                pure (.inr left)
              else do
                advance
                require (operator ≠ "**" || !isNoBase left)
                let right ← nested (.binary (if operator = "**" then level - 1 else level))
                check (operator ≠ "??" || !(isLogical left || isLogical right))
                .inl <$> node left.label.span.start (.binary operator) [left, right]

/-- Operands joined by operators that bind closer than `minimum`. -/
def binary [Nested] (minimum : Nat) : Parser Program := do
  let first ← unary
  if isArrow first then pure first else operands minimum first

/-! ## Conditions and assignments -/

def branches [Nested] (start : Nat) (test : Program) : Parser Program := do
  mark "?"
  let yes ← within (fun context =>
      { context with inCondition := true, colonPending := true, withoutIn := false })
    (nested .assignment)
  mark ":"
  let no ← within (fun context => { context with inCondition := true, colonPending := false })
    (nested .assignment)
  node start .conditional [test, yes, no]

def conditional [Nested] : Parser Program := do
  let start ← start
  let test ← binary 0
  if !isArrow test && (← atMark "?") then branches start test else pure test

/-- Whether a generator hands out a value that begins at the cursor. -/
def atYielded : Parser Bool := do
  let token ← token
  if ← atEnd then
    pure false
  else
    match token.shape with
    | .word text =>
        pure (!isKeyword text || isOneOf ["await", "function", "new", "this", "super", "class",
          "import", "yield", "typeof", "void", "delete"] text)
    | .number | .bigint | .string _ | .template .. | .privateName _ => pure true
    | .mark "<" => pure (← context).markup
    | .mark text =>
        pure (["*", "/", "!", "(", "\x7b", "[", "~", "++", "--", "+", "-"].contains text)
    | _ => pure false

def yielded [Nested] : Parser Program := do
  let start ← start
  word "yield"
  let context ← context
  require (!(context.inParameters && !context.inFunction))
  if ← atYielded then
    let delegate ← eatMark "*"
    let value ← nested .assignment
    node start (.yielded delegate) [value]
  else
    node start (.yielded false) [absent]

/-- The assignments that go through an operator. -/
def compoundMarks : List String :=
  ["+=", "-=", "*=", "/=", "%=", "**=", "<<=", ">>=", ">>>=", "&=", "|=", "^=", "&&=", "||=",
    "??="]

/-- Whether a value is a literal that may turn out to be a pattern. -/
def isPatternLike (value : Program) : Bool :=
  value.label.kind matches .array | .object

/-- The assignment to a value that was read, or the value itself. -/
def assigned [Nested] (left : Program) : Parser Program := do
  let start := left.label.span.start
  if ← atMark "=" then
    require (isPatternLike left || Target.isPlace left)
    let target ← Target.ofExpression .target left
    let target := if left.label.kind matches .reference _ then left else target
    advance
    let right ← nested .assignment
    node start (.assign "=") [target, right]
  else if ← atMarks compoundMarks then
    check (Target.isSimple left)
    require (Target.isPlace left)
    let operator ← operatorText
    let right ← nested .assignment
    node start (.assign operator) [left, right]
  else
    pure left

/-- Whether a value is made by operators, so that nothing is assigned to it. -/
def isOperation (value : Program) : Bool :=
  value.label.kind matches .conditional | .binary _ | .unary _ | .update ..

/-- An assignment without type parameters in front. -/
def plainAssignment [Nested] : Parser Program := do
  let token ← token
  if (← context).inGenerator && isWord token "yield" then
    yielded
  else
    let opens :=
      match token.shape with
      | .word text => !isKeyword text || text = "yield".toList
      | .mark text => text = "("
      | _ => false
    modify fun cursor =>
      { cursor with arrowStart := if opens then some token.span.start else none }
    let left ← conditional
    if isArrow left || isOperation left then pure left else assigned left

def genericArrow [Nested] : Parser Program :=
  within (fun context => { context with colonPending := false }) do
    let start ← start
    let generics ← typeParameters false true
    match ← plainAssignment with
    | .node ⟨.arrow async, span⟩ (_ :: parts) =>
        pure (.node ⟨.arrow async, ⟨start, span.stop⟩⟩ (generics :: parts))
    | _ => failure

/-- An assignment, an arrow function, or a simpler value.  Where elements may be written,
an angle begins one before it begins type parameters. -/
def assignment [Nested] : Parser Program := do
  let angle ← atMark "<"
  let element ← if angle && (← context).markup then attempt plainAssignment else pure none
  match element with
  | some value => pure value
  | none =>
      let generic := angle && isAnyWord (← nextToken)
      match ← if generic then attempt genericArrow else pure none with
      | some value => pure value
      | none => plainAssignment

/-- Values between commas, of which the last one counts. -/
def expression [Nested] : Parser Program := do
  let start ← start
  let first ← nested .assignment
  let more ← gather do
    if ← eatMark "," then some <$> nested .assignment else pure none
  if more.isEmpty then pure first else node start .sequence (first :: more)

end Grammar

end Syntax

end Relink
