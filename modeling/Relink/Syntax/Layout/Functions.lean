import Relink.Syntax.Layout.Types

/-!
# Laying out patterns, functions and classes

Patterns stay on one line, and the members of classes have lines of their own.
-/

namespace Relink

namespace Syntax

namespace Layout

open Layout.Part

/-! ## Patterns -/

/-- The elements of a list pattern.  A value left out at the end keeps its comma. -/
def listElements (stop : Nat) (elements : List Part) : Pieces :=
  let lastMisses := elements.getLast?.any fun element => !element.isPresent
  listed stop value elements ++ putIf lastMisses ", "

/-- A pattern or a part of one, none for another part. -/
def pattern? (label : Label) (parts : List Part) : Option Pieces :=
  let stop := label.span.stop
  match label.kind, parts with
  | .binding name optional, [type] =>
      some (.text name :: putIf optional "?" ++ behind ": " type.pieces)
  | .arrayPattern optional, [elements, type] =>
      some (put "[" ++ listElements stop elements.parts ++ put "]" ++ putIf optional "?" ++
        behind ": " type.pieces)
  | .objectPattern optional, [entries, type] =>
      some (put "\x7b" ++ between " " (listed stop pieces entries.parts) " " ++ put "\x7d" ++
        putIf optional "?" ++ behind ": " type.pieces)
  | .defaulted, [target, standard] => some (target.value ++ put " = " ++ standard.value)
  | .rest, [inside, type] => some (put "..." ++ inside.value ++ behind ": " type.pieces)
  | .patternEntry, [key, target] => some (key.pieces ++ put ": " ++ target.value)
  | .patternShorthand, [name, standard] => some (name.pieces ++ behind " = " standard.value)
  | _, _ => none

/-! ## Functions -/

/-- A parameter of a function.  The comments behind one that makes a property are left to
the row. -/
def parameter (part : Part) : Pieces :=
  match part.kind with
  | .parameterProperty _ => part.pieces
  | _ => part.value

/-- The parameters of a function between brackets. -/
def parameters (stop : Nat) (items : Part) : Pieces :=
  put "(" ++ listed stop parameter items.parts ++ put ")"

/-- The body of a function behind a space, or the end of a declaration without one. -/
def bodyOrEnd (body : Part) : Pieces :=
  if body.isPresent then put " " ++ body.pieces else put ";"

def functionRest (stop : Nat) (generics items result body : Part) : Pieces :=
  generics.pieces ++ parameters stop items ++ behind ": " result.pieces ++ bodyOrEnd body

/-- The body of an arrow function, of which a value is one level deeper. -/
def arrowBody (body : Part) : Pieces :=
  if body.isBlock then body.pieces else .indent :: body.value ++ [.dedent]

def accessWord (access : Option String) : Pieces :=
  access.elim [] fun word => put (word ++ " ")

/-- A function with its name, none for another part. -/
def function? (label : Label) (parts : List Part) : Option Pieces :=
  let stop := label.span.stop
  match label.kind, parts with
  | .functionDeclaration async generator declare, [name, generics, items, result, body] =>
      some (putIf declare "declare " ++ putIf async "async " ++ put "function" ++
        putIf generator "*" ++ behind " " name.pieces ++
        functionRest stop generics items result body)
  | .functionExpression async generator, [name, generics, items, result, body] =>
      some (putIf async "async " ++ put "function" ++ putIf generator "*" ++
        behind " " name.pieces ++ functionRest stop generics items result body)
  | .arrow async, [generics, items, result, body] =>
      some (putIf async "async " ++ generics.pieces ++ parameters stop items ++
        between ": " result.pieces " " ++ put "=>" ++ arrowBody body)
  | .parameterProperty modifiers, [inside] =>
      some (accessWord modifiers.access ++ putIf modifiers.override "override " ++
        putIf modifiers.readonly "readonly " ++ inside.pieces)
  | _, _ => none

/-! ## Classes -/

/-- The words before a member of a class for what it belongs to. -/
def placeWords (modifiers : Modifiers) : Pieces :=
  accessWord modifiers.access ++ putIf modifiers.isStatic "static " ++
    putIf modifiers.isAbstract "abstract " ++ putIf modifiers.override "override "

/-- The words before a method for how it is called. -/
def callWords (modifiers : Modifiers) : Pieces :=
  putIf modifiers.async "async " ++ modifiers.getOrSet.elim [] (fun word => put (word ++ " ")) ++
    putIf modifiers.generator "*"

/-- The words before a property.  An accessor is never marked as fixed. -/
def propertyWords (modifiers : Modifiers) : Pieces :=
  putIf modifiers.declare "declare " ++ placeWords modifiers ++
    if modifiers.accessor then put "accessor " else putIf modifiers.readonly "readonly "

/-- A member of a class, none for another part. -/
def classMember? (label : Label) (parts : List Part) : Option Pieces :=
  let stop := label.span.stop
  match label.kind, parts with
  | .method modifiers, [name, generics, items, result, body] =>
      some (.leading name.start :: placeWords modifiers ++ callWords modifiers ++
        name.pieces ++ putIf modifiers.optional "?" ++
        functionRest stop generics items result body)
  | .constructorMember access, [items, body] =>
      some (accessWord access ++ put "constructor" ++ parameters stop items ++
        (if body.isPresent then body.pieces else put ";"))
  | .property modifiers, [name, type, value] =>
      some (propertyWords modifiers ++ name.pieces ++
        putIf (modifiers.optional && !modifiers.accessor) "?" ++
        behind (if modifiers.definite then "!: " else ": ") type.pieces ++
        behind " = " value.value ++ put ";")
  | .staticBlock, [body] => some (put "static" ++ body.pieces)
  | .emptyMember, _ => some (put ";")
  | _, _ => none

/-- The name of a class with its type parameters, which are left out without a name. -/
def named (name generics : Part) : Pieces :=
  if name.isPresent then put " " ++ name.pieces ++ generics.pieces else []

def classRest (stop : Nat) (parent arguments interfaces members : Part) : Pieces :=
  behind " extends " parent.value ++ arguments.pieces ++
    behind " implements " (listed stop pieces interfaces.parts) ++ put " \x7b" ++
    onLines (members.parts.map pieces) ++ put "\x7d"

def class? (label : Label) (parts : List Part) : Option Pieces :=
  let stop := label.span.stop
  match label.kind, parts with
  | .classDeclaration isAbstract declare,
      [name, generics, parent, arguments, interfaces, members] =>
      some (putIf declare "declare " ++ putIf isAbstract "abstract " ++ put "class" ++
        named name generics ++ classRest stop parent arguments interfaces members)
  | .classExpression, [name, generics, parent, arguments, interfaces, members] =>
      some (put "class" ++ named name generics ++
        classRest stop parent arguments interfaces members)
  | .heritage, [name, generics] => some (name.value ++ generics.pieces)
  | _, _ => none

end Layout

end Syntax

end Relink
