import Relink.Syntax.Layout.Piece

/-!
# Laying out markup

Elements are written as they stand, since blanks between tags count.
-/

namespace Relink

namespace Syntax

namespace Layout

open Layout.Part

def closingTag (name : Part) : Pieces :=
  if name.isPresent then put "</" ++ name.pieces ++ put ">" else []

def markup? (label : Label) (parts : List Part) : Option Pieces :=
  match label.kind, parts with
  | .markup, [opening, inside, closing] =>
      some (opening.pieces ++ inside.parts.flatMap pieces ++ closingTag closing)
  | .markupOpening selfClosing, [name, generics, attributes] =>
      some (put "<" ++ name.pieces ++ generics.pieces ++
        attributes.parts.flatMap (fun part => put " " ++ part.pieces) ++
        put (if selfClosing then "/>" else ">"))
  | .markupAttribute, [name, value] => some (name.pieces ++ behind "=" value.pieces)
  | .markupSpread, [value] =>
      some (put "\x7b" ++ [.leading label.span.start] ++ put "..." ++ value.value ++
        put "\x7d")
  | .markupContainer, [value] => some (put "\x7b" ++ value.value ++ put "\x7d")
  | .markupEmpty, _ => some [.leading label.span.start]
  | .markupText value, _ => some [.text value]
  | _, _ => none

end Layout

end Syntax

end Relink
