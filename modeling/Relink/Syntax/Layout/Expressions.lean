import Relink.Syntax.Layout.Functions
import Relink.Syntax.Quote

/-!
# Laying out expressions

Object and list literals have an entry a line.
-/

namespace Relink

namespace Syntax

namespace Layout

open Layout.Part

/-! ## Literals -/

def literal : Literal → Pieces
  | .string span value raw => [.leading span.start, .text (raw.getD (quoted value))]
  | .template span first rest =>
      .leading span.start :: template ((first :: rest).map Quasi.raw) []

/-- What stands between the braces of an object literal. -/
def objectBody (stop : Nat) (parts : List Part) : Pieces :=
  (if parts.isEmpty then [.lineIfLed (stop - 1)] else listedOnLines stop pieces parts) ++
    [.leading (stop - 1)]

/-- What stands between the brackets of a list literal.  A value left out at the end
keeps its comma. -/
def listBody (stop : Nat) (elements : List Part) : Pieces :=
  if elements.isEmpty then []
  else
    let lastMisses := elements.getLast?.any fun element => !element.isPresent
    [.line, .indent] ++ joined (put "," ++ [.line]) stop value elements ++
      putIf lastMisses ", " ++ [.line, .dedent]

/-- A property of an object literal, none for another part. -/
def property? (label : Label) (parts : List Part) : Option Pieces :=
  let stop := label.span.stop
  match label.kind, parts with
  | .keyValue, [key, value] => some (key.pieces ++ put ": " ++ value.value)
  | .objectMethod async generator, [name, generics, items, result, body] =>
      some (putIf async "async " ++ putIf generator "*" ++ name.pieces ++ put " " ++
        functionRest stop generics items result body)
  | .objectAccessor "get", [name, _, body] =>
      some (put "get " ++ name.pieces ++ put " ()" ++ bodyOrEnd body)
  | .objectAccessor _, [name, items, body] =>
      some (put "set " ++ name.pieces ++ put " " ++ parameters stop items ++ body.pieces)
  | .coverInitializer, [name, value] => some (name.pieces ++ put "=" ++ value.value)
  | .spread, [value] => some (put "..." ++ value.value)
  | .computed, [value] => some (put "[" ++ value.value ++ put "]")
  | _, _ => none

def single? (label : Label) (parts : List Part) : Option Pieces :=
  let stop := label.span.stop
  match label.kind, parts with
  | .name text, _ | .reference text, _ | .special text, _ => some [.text text]
  | .literal raw, _ | .number raw, _ => some [.text raw]
  | .superclass, _ => some (put "super")
  | .template pieces, values => some (template pieces (values.map value))
  | .array, elements => some (put "[" ++ listBody stop elements ++ put "]")
  | .object, parts => some (put "\x7b" ++ objectBody stop parts ++ put "\x7d")
  | _, _ => none

/-! ## Operators -/

/-- Whether an operator before an operand needs a space behind it. -/
def needsSpace (operator : String) (operand : Part) : Bool :=
  ["typeof", "void", "delete"].contains operator ||
    match operand.kind with
    | .unary inner | .update inner true =>
        (operator = "+" || operator = "-") && inner.startsWith operator
    | _ => false

/-- A value behind a word, in brackets if comments lead it. -/
def behindWord (value : Part) : Pieces :=
  if value.isPresent then .bracketIfLed value.start :: value.value ++ [.closeBracket] else []

/-- A value made by operators, none for another part. -/
def operation? (label : Label) (parts : List Part) : Option Pieces :=
  match label.kind, parts with
  | .sequence, values => some (separated (put ", ") (values.map value))
  | .parenthesized, [value] => some (put "(" ++ value.value ++ put ")")
  | .unary operator, [value] =>
      some (put operator ++ putIf (needsSpace operator value) " " ++ value.value)
  | .update operator before, [value] =>
      some (if before then put operator ++ value.value else value.value ++ put operator)
  | .binary operator, [left, right] =>
      some (left.value ++ put (" " ++ operator ++ " ") ++ right.value)
  | .assign operator, [left, right] =>
      some (left.pieces ++ put (" " ++ operator ++ " ") ++ right.value)
  | .conditional, [test, yes, no] =>
      some (test.value ++ put " ? " ++ yes.value ++ put " : " ++ no.value)
  | .yielded delegate, [value] =>
      some (put (if delegate then "yield*" else "yield") ++ behindWord value)
  | .awaited, [value] => some (put "await " ++ value.value)
  | .typed word, [value] => some (value.value ++ put (" " ++ word))
  | .typed word, [value, type] =>
      some (value.value ++ put (" " ++ word ++ " ") ++ type.pieces)
  | .nonNull, [value] => some (value.value ++ put "!")
  | .assertion, [type, value] => some (put "<" ++ type.pieces ++ put ">" ++ value.value)
  | .instantiation, [value, generics] => some (value.value ++ generics.pieces)
  | _, _ => none

/-! ## Members and calls -/

/-- Whether a value is a whole number in digits, behind which a point alone would be
part of the number. -/
def isDigits (part : Part) : Bool :=
  match part.kind with
  | .number raw => raw.all Char.isDigit && (raw.length = 1 || raw.head? ≠ some '0')
  | _ => false

/-- A value of which a member is meant.  The comments behind an instance or a number are
not written. -/
def base (numbers : Bool) (part : Part) : Pieces :=
  match part.kind with
  | .newCall | .superclass => part.pieces
  | .number _ => if numbers then part.pieces else part.value
  | _ => part.value

/-- The point before the name of a member, with the comments that lead it.  A number needs
a second one. -/
def point (value name : Part) : Pieces :=
  match value.kind with
  | .superclass => put "."
  | _ =>
      (if isDigits value then .leading (name.start - 2) :: put "." else []) ++
        .leading (name.start - 1) :: put "."

/-- The arguments of a call between brackets. -/
def arguments (stop : Nat) (parts : List Part) : Pieces :=
  put "(" ++ listed stop value parts ++ put ")"

/-- A member of a value, none for another part. -/
def member? (label : Label) (parts : List Part) : Option Pieces :=
  match label.kind, parts with
  | .member .plain, [value, name] => some (base true value ++ point value name ++ name.pieces)
  | .member .optional, [value, name] => some (base false value ++ put "?." ++ name.pieces)
  | .member .chained, [value, name] => some (base false value ++ put "." ++ name.pieces)
  | .index link, [value, index] =>
      some (base (link = .plain) value ++ put (if link = .optional then "?.[" else "[") ++
        index.value ++ put "]")
  | _, _ => none

/-- A call or an instance, none for another part.  A call in a chain that may end early
has no type arguments. -/
def call? (label : Label) (parts : List Part) : Option Pieces :=
  let stop := label.span.stop
  match label.kind, parts with
  | .call .plain, [callee, generics, items] =>
      some (base false callee ++ generics.pieces ++ arguments stop items.parts)
  | .call link, [callee, _, items] =>
      some (callee.value ++ putIf (link = .optional) "?." ++ arguments stop items.parts)
  | .importCall phase, items =>
      some (put "import" ++ phase.elim [] (fun word => put ("." ++ word)) ++
        arguments stop items)
  | .newCall, [callee, generics, items] =>
      some (put "new " ++ callee.value ++ generics.pieces ++
        if items.isPresent then arguments stop items.parts else [])
  | .tagged, [tag, generics, value] => some (base false tag ++ generics.pieces ++ value.pieces)
  | _, _ => none

/-- An expression or a property, none for another part. -/
def expression? (label : Label) (parts : List Part) : Option Pieces :=
  single? label parts <|> operation? label parts <|> member? label parts <|>
    call? label parts <|> property? label parts

end Layout

end Syntax

end Relink
