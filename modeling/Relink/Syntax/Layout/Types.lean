import Relink.Syntax.Layout.Piece

/-!
# Laying out types

Types stay on one line, apart from those with members.
-/

namespace Relink

namespace Syntax

namespace Layout

open Layout.Part

/-! ## Templates -/

/-- A text with all line ends written as one character. -/
def withPlainLines : Text → Text
  | '\r' :: '\n' :: rest => '\n' :: withPlainLines rest
  | '\r' :: rest => '\n' :: withPlainLines rest
  | char :: rest => char :: withPlainLines rest
  | [] => []

/-- The stretches of a template with what is substituted between them. -/
def stretches : List Text → List Pieces → Pieces
  | [], _ => []
  | piece :: pieces, [] => .text (withPlainLines piece) :: stretches pieces []
  | piece :: pieces, item :: items =>
      .text (withPlainLines piece) :: put "$\x7b" ++ item ++ put "\x7d" ++ stretches pieces items

def template (pieces : List Text) (items : List Pieces) : Pieces :=
  put "\x60" ++ stretches pieces items ++ put "\x60"

/-! ## Signatures -/

def angled (stop : Nat) (parts : List Part) : Pieces :=
  put "<" ++ listed stop pieces parts ++ put ">"

/-- The parameters of a type between brackets. -/
def typeParameters (stop : Nat) (items : Part) : Pieces :=
  put "(" ++ listed stop pieces items.parts ++ put ")"

/-- The members of an object type, on lines of their own. -/
def members (parts : List Part) : Pieces :=
  put "\x7b" ++ onLines (parts.map fun part => part.pieces ++ put ";") ++ put "\x7d"

def memberName (name : Part) : Pieces :=
  match name.kind with
  | .computed => name.pieces
  | _ => name.value

/-- A member of an object type without the mark behind it, none for another part. -/
def typeMember? (label : Label) (parts : List Part) : Option Pieces :=
  let stop := label.span.stop
  match label.kind, parts with
  | .propertySignature readonly optional, [name, type] =>
      some (putIf readonly "readonly " ++ memberName name ++ putIf optional "?" ++
        behind ": " type.pieces)
  | .methodSignature optional, [name, generics, items, result] =>
      some (memberName name ++ putIf optional "?" ++ generics.pieces ++
        typeParameters stop items ++ behind ": " result.pieces)
  | .accessorSignature word, [name, items, result] =>
      some (put (word ++ " ") ++ memberName name ++ typeParameters stop items ++
        behind ": " result.pieces)
  | .callSignature, [generics, items, result] =>
      some (generics.pieces ++ typeParameters stop items ++ behind " : " result.pieces)
  | .constructSignature, [generics, items, result] =>
      some (put "new" ++ behind " " generics.pieces ++ typeParameters stop items ++
        behind ": " result.pieces)
  | .indexSignature _ readonly, [items, value] =>
      some (putIf readonly "readonly " ++ put "[" ++ listed stop pieces items.parts ++
        put "]" ++ behind ": " value.pieces)
  | _, _ => none

/-! ## Types -/

def mappedType (readonly optional : String) (parameter renamed type : Part) : Pieces :=
  let named :=
    match parameter.parts with
    | name :: constraint :: _ => name.pieces ++ behind " in " constraint.pieces
    | _ => []
  put "\x7b" ++ [.line, .indent] ++ putIf (readonly ≠ "") (readonly ++ " ") ++ put "[" ++
    named ++ behind " as " renamed.pieces ++ put ("]" ++ optional) ++
    put ": " ++ type.pieces ++ put ";" ++ [.line, .dedent] ++ put "\x7d"

def importType (name extra qualifier generics : Part) : Pieces :=
  let attributes := extra.parts.flatMap pieces
  put "import(" ++ name.pieces ++ between ", \x7b with: " attributes " \x7d" ++ put ")" ++
    behind "." qualifier.pieces ++ generics.pieces

/-- A type made from others, none for another part. -/
def compoundType? (label : Label) (parts : List Part) : Option Pieces :=
  let stop := label.span.stop
  match label.kind, parts with
  | .arrayType, [type] => some (type.pieces ++ put "[]")
  | .tupleType, elements => some (put "[" ++ listed stop pieces elements ++ put "]")
  | .tupleElement, [name, type] => some (between "" name.value ": " ++ type.pieces)
  | .optionalType, [type] => some (type.pieces ++ put "?")
  | .restType, [type] => some (put "..." ++ type.pieces)
  | .unionType, types => some (joined (put " | ") stop pieces types)
  | .intersectionType, types => some (joined (put " & ") stop pieces types)
  | .functionType, [generics, items, result] =>
      some (generics.pieces ++ typeParameters stop items ++ put " => " ++ result.pieces)
  | .constructorType isAbstract, [generics, items, result] =>
      some (putIf isAbstract "abstract " ++ put "new" ++ behind " " generics.pieces ++
        typeParameters stop items ++ put " => " ++ result.pieces)
  | .conditionalType, [checked, bound, yes, no] =>
      some (checked.pieces ++ put " extends " ++ bound.pieces ++ put " ? " ++ yes.pieces ++
        put " : " ++ no.pieces)
  | .inferType, [name] => some (put "infer " ++ name.pieces)
  | .typeOperator word, [type] => some (put (word ++ " ") ++ type.pieces)
  | .indexedAccess, [type, index] => some (type.pieces ++ put "[" ++ index.pieces ++ put "]")
  | .mappedType readonly optional, [parameter, renamed, type] =>
      some (mappedType readonly optional parameter renamed type)
  | .typeLiteral, parts => some (members parts)
  | .templateType pieces, items => some (template pieces (items.map Part.pieces))
  | .parenthesizedType, [type] => some (put "(" ++ type.pieces ++ put ")")
  | .predicate asserts, [name, type] =>
      some (putIf asserts "asserts " ++ name.pieces ++ behind " is " type.pieces)
  | _, _ => none

/-- A type or a part of one, none for another part. -/
def type? (label : Label) (parts : List Part) : Option Pieces :=
  let stop := label.span.stop
  match label.kind, parts with
  | .ascription, [type] => some type.pieces
  | .typeWord text, _ => some [.text text]
  | .typeReference, [name, generics] => some (name.pieces ++ generics.pieces)
  | .qualified, [left, right] => some (left.pieces ++ put "." ++ right.pieces)
  | .typeArguments, items | .typeParameters, items => some (angled stop items)
  | .typeParameter words, [name, constraint, standard] =>
      some (words.flatMap (fun word => put (word ++ " ")) ++ name.pieces ++
        behind " extends " constraint.pieces ++ behind " = " standard.pieces)
  | .typeQuery, [name, generics] => some (put "typeof " ++ name.pieces ++ generics.pieces)
  | .importType, [name, extra, qualifier, generics] =>
      some (importType name extra qualifier generics)
  | _, _ => compoundType? label parts <|> typeMember? label parts

end Layout

end Syntax

end Relink
