import Relink.Syntax.Layout.Expressions

/-!
# Laying out statements

Statements, declarations, imports and exports.  A part that is a statement is laid
out without what ends its line, so that a declaration can also stand behind `export`.
-/

namespace Relink

namespace Syntax

namespace Layout

open Layout.Part

/-! ## Branches -/

/-- Statements between braces.  Nothing stands between the braces of an empty block,
unless comments do. -/
def block (stop : Nat) (parts : List Part) : Pieces :=
  put "\x7b" ++
    (if parts.isEmpty then [.lineIfLed (stop - 1)] else onLines (parts.map asStatement)) ++
    .leading (stop - 1) :: put "\x7d"

def ifElse (test yes no : Part) : Pieces :=
  put "if (" ++ test.value ++ put ") " ++ yes.asStatement ++
    if no.isPresent then putIf yes.isBlock " " ++ put "else " ++ no.asStatement else []

def switchCase (test body : Part) : Pieces :=
  (if test.isPresent then put "case " ++ test.value else put "default") ++ put ":" ++
    if body.parts.isEmpty then [] else onLines (body.parts.map asStatement)

def branch? (label : Label) (parts : List Part) : Option Pieces :=
  match label.kind, parts with
  | .block, parts => some (block label.span.stop parts)
  | .ifElse, [test, yes, no] => some (ifElse test yes no)
  | .switchOver, [value, cases] =>
      some (put "switch(" ++ value.value ++ put ")\x7b" ++ onLines (cases.parts.map pieces) ++
        put "\x7d")
  | .switchCase, [test, body] => some (switchCase test body)
  | .tryCatch, [body, handler, final] =>
      some (put "try " ++ body.pieces ++ behind " " handler.pieces ++
        behind " finally" final.pieces)
  | .catchClause, [caught, body] =>
      some (put "catch " ++ between "(" caught.value ")" ++ put " " ++ body.pieces)
  | _, _ => none

/-! ## Loops -/

/-- What stands first in the head of a loop: variables or a value. -/
def headPieces (part : Part) : Pieces :=
  match part.kind with
  | .declaredVariables .. | .resources _ => part.pieces
  | _ => part.value

def loop? (label : Label) (parts : List Part) : Option Pieces :=
  match label.kind, parts with
  | .whileLoop, [test, body] =>
      some (put "while(" ++ test.value ++ put ")" ++ body.asStatement)
  | .doWhile, [body, test] =>
      some (put "do " ++ body.asStatement ++ put "while (" ++ test.value ++ put ")")
  | .forLoop, [first, test, step, body] =>
      some (put "for(" ++ headPieces first ++ put ";" ++ behind " " test.value ++ put ";" ++
        behind " " step.value ++ put ")" ++ body.asStatement)
  | .forIn, [target, object, body] =>
      some (put "for(" ++ headPieces target ++ put " in " ++ object.value ++ put ")" ++
        body.asStatement)
  | .forOf awaited, [target, values, body] =>
      some (put "for " ++ putIf awaited "await " ++ put "(" ++ headPieces target ++
        put " of " ++ values.value ++ put ")" ++ body.asStatement)
  | _, _ => none

/-! ## Plain statements -/

/-- A statement without others in it, none for another part. -/
def plain? (label : Label) (parts : List Part) : Option Pieces :=
  let stop := label.span.stop
  match label.kind, parts with
  | .expressionStatement, [value] => some (value.value ++ put ";")
  | .emptyStatement, _ => some (put ";")
  | .declaredVariables word declare, parts =>
      some (putIf declare "declare " ++ put (word ++ " ") ++ listed stop pieces parts)
  | .resources awaited, parts =>
      some (putIf awaited "await " ++ put "using " ++ listed stop pieces parts)
  | .declarator, [target, first] => some (target.value ++ behind " = " first.value)
  | .leave word, [value] =>
      let inside := match value.kind with
        | .name _ => behind " " value.pieces
        | _ => behindWord value
      some (put word ++ inside ++ put ";")
  | .labeled, [name, body] => some (name.pieces ++ put ": " ++ body.asStatement)
  | _, _ => none

/-! ## Declarations of types and namespaces -/

def namespaceHead (word : String) (names : Part) : Pieces :=
  put word ++ behind " " (separated (put ".") (names.parts.map pieces))

/-- A declaration of a type or a namespace, none for another part. -/
def declaration? (label : Label) (parts : List Part) : Option Pieces :=
  let stop := label.span.stop
  match label.kind, parts with
  | .interfaceDeclaration declare, [name, generics, parents, body] =>
      some (putIf declare "declare " ++ put "interface " ++ name.pieces ++ generics.pieces ++
        behind " extends " (listed stop pieces parents.parts) ++ put " " ++ body.pieces)
  | .interfaceBody, parts => some (members parts)
  | .typeAlias declare, [name, generics, type] =>
      some (putIf declare "declare " ++ put "type " ++ name.pieces ++ generics.pieces ++
        put " = " ++ type.pieces ++ put ";")
  | .enumDeclaration declare constant, [name, members] =>
      some (putIf declare "declare " ++ putIf constant "const " ++ put "enum " ++
        name.pieces ++ put " \x7b" ++ listedOnLines stop pieces members.parts ++ put "\x7d")
  | .enumMember, [name, value] => some (name.pieces ++ behind " = " value.value)
  | .namespaceDeclaration word declare, [names, body] =>
      some (putIf declare "declare " ++ namespaceHead word names ++ behind " " body.pieces)
  | .moduleBlock, items =>
      some (put "\x7b" ++ onLines (items.map asModuleItem) ++ put "\x7d")
  | _, _ => none

/-! ## Imports and exports -/

def inBraces (stop : Nat) (items : List Part) : Pieces :=
  let inside := listed stop pieces items
  put "\x7b " ++ inside ++ putIf (!inside.isEmpty) " " ++ put "\x7d"

def isNamed (part : Part) : Bool := part.kind matches .importNamed _

/-- What an import makes known, up to the source. -/
def importBindings (stop : Nat) (bindings : List Part) : Pieces :=
  let whole := (bindings.filter fun part => !isNamed part).map pieces
  let named := bindings.filter isNamed
  let parts := whole ++ if named.isEmpty then [] else [inBraces stop named]
  between "" (separated (put ", ") parts) " from "

def exportBindings (stop : Nat) (bindings : List Part) : Pieces :=
  match bindings with
  | [part] =>
      match part.kind with
      | .exportNamespace => part.pieces
      | _ => inBraces stop bindings
  | _ => inBraces stop bindings

/-- A part of a declaration that imports or exports, or a whole one without a source,
none for another part. -/
def exchange? (label : Label) (parts : List Part) : Option Pieces :=
  let stop := label.span.stop
  match label.kind, parts with
  | .importDefault, [name] => some name.pieces
  | .importNamespace, [name] | .exportNamespace, [name] => some (put "* as " ++ name.pieces)
  | .importNamed typeOnly, [imported, name] =>
      some (putIf typeOnly "type " ++ between "" imported.pieces " as " ++ name.pieces)
  | .exportSpecifier typeOnly, [name, renamed] =>
      some (putIf typeOnly "type " ++ name.pieces ++ behind " as " renamed.pieces)
  | .exportNamed typeOnly, [bindings, _] =>
      some (put "export " ++ putIf typeOnly "type " ++ exportBindings stop bindings.parts ++
        put ";")
  | .exported asDefault, [inside] =>
      some (put "export " ++ putIf asDefault "default " ++ inside.pieces ++ inside.statementEnd)
  | .exportedValue assigned, [value] =>
      some (if assigned then put "export = " ++ value.value
        else put "export default " ++ value.value ++ put ";")
  | .exportAsNamespace, [name] => some (put "export = " ++ name.pieces)
  | .importEquals exported typeOnly, [name, reference] =>
      some (putIf exported "export " ++ put "import " ++ putIf typeOnly "type " ++
        name.pieces ++ put " = " ++ reference.pieces ++ put ";")
  | .externalModule, [name] => some (put "require(" ++ name.pieces ++ put ")")
  | _, _ => none

/-- A statement or a declaration, none for another part. -/
def statement? (label : Label) (parts : List Part) : Option Pieces :=
  branch? label parts <|> loop? label parts <|> plain? label parts <|>
    declaration? label parts <|> exchange? label parts

def request (form : Form) (label : Label) (slot : Literal) (parts : List Part) : Pieces :=
  let stop := label.span.stop
  match form, label.kind, parts with
  | .importDeclaration, .importDeclaration typeOnly phase, [bindings, extra] =>
      put "import " ++ putIf typeOnly "type " ++ phase.elim [] (fun word => put (word ++ " ")) ++
        importBindings stop bindings.parts ++ literal slot ++ behind " with " extra.pieces ++
        put ";"
  | .exportNamed, .exportNamed typeOnly, [bindings, extra] =>
      put "export " ++ putIf typeOnly "type " ++ exportBindings stop bindings.parts ++
        put " from " ++ literal slot ++ behind " with " extra.pieces ++ put ";"
  | .exportAll, .exportAll typeOnly, [extra] =>
      put "export " ++ putIf typeOnly "type " ++ put "* from " ++ literal slot ++
        behind " with " extra.pieces ++ put ";"
  | .importCall spread, .importCall phase, parts =>
      let first := spread.elim [] (fun span => .leading span.start :: put "...") ++
        literal slot ++ [.trailing slot.span.stop]
      let more := listed stop value parts
      put "import" ++ phase.elim [] (fun word => put ("." ++ word)) ++ put "(" ++ first ++
        behind ", " more ++ put ")"
  | _, _, _ => []

end Layout

end Syntax

end Relink
