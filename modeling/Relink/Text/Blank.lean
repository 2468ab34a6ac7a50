import Relink.Text.Ranges
import Relink.Text.Split

/-!
# Blank characters

The characters with the Unicode property White_Space, and texts without them at
their ends.
-/

namespace Relink

def blankRanges : List (Nat × Nat) :=
  [(0x09, 0x0D), (0x20, 0x20), (0x85, 0x85), (0xA0, 0xA0), (0x1680, 0x1680),
    (0x2000, 0x200A), (0x2028, 0x2029), (0x202F, 0x202F), (0x205F, 0x205F), (0x3000, 0x3000)]

/-- Whether a character has the property White_Space. -/
def isBlank (char : Char) : Bool :=
  inRanges blankRanges char

namespace Text

/-- The text without the blanks at its beginning. -/
def trimStart (text : Text) : Text :=
  text.dropWhile isBlank

def trimEnd (text : Text) : Text :=
  (text.reverse.dropWhile isBlank).reverse

def trim (text : Text) : Text :=
  (text.trimStart).trimEnd

end Text

end Relink
