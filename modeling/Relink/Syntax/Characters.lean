import Relink.Text.IdentifierTables
import Relink.Text.Ranges
import Relink.Text.Split

/-!
# Characters of source text

The characters that separate tokens, end lines, and make names and numbers.
-/

namespace Relink

namespace Syntax

def isLineEnd (char : Char) : Bool :=
  char = '\n' || char = '\r' || char = '\u2028' || char = '\u2029'

/-- The blank characters above the ASCII range. -/
def spaceRanges : List (Nat × Nat) :=
  [(0xA0, 0xA0), (0x1680, 0x1680), (0x2000, 0x200A), (0x202F, 0x202F), (0x205F, 0x205F),
    (0x3000, 0x3000), (0xFEFF, 0xFEFF)]

/-- Whether a character separates tokens within a line. -/
def isSpace (char : Char) : Bool :=
  char = ' ' || char = '\t' || char = '\x0b' || char = '\x0c' || inRanges spaceRanges char

def beginsName (char : Char) : Bool :=
  if char.toNat < 0x80 then char.isAlpha || char = '$' || char = '_'
  else inRanges IdentifierChar.startRanges char

def continuesName (char : Char) : Bool :=
  beginsName char || char.isDigit || char = '\u200c' || char = '\u200d' ||
    (0x80 ≤ char.toNat && inRanges IdentifierChar.partRanges char)

/-- The value of a digit in a base up to sixteen. -/
def digit? (base : Nat) (char : Char) : Option Nat :=
  let value :=
    if '0' ≤ char ∧ char ≤ '9' then char.toNat - '0'.toNat
    else if 'a' ≤ char ∧ char ≤ 'f' then char.toNat - 'a'.toNat + 10
    else if 'A' ≤ char ∧ char ≤ 'F' then char.toNat - 'A'.toNat + 10
    else base
  if value < base then some value else none

/-- The number that hexadecimal digits spell. -/
def hexValue (digits : Text) : Nat :=
  digits.foldl (fun value char => 16 * value + (digit? 16 char).getD 0) 0

end Syntax

end Relink
