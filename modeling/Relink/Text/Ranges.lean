/-!
# Character ranges

Membership in a table of closed code point ranges.
-/

namespace Relink

/-- Whether a character lies in one of the closed ranges of a table. -/
def inRanges (ranges : List (Nat × Nat)) (char : Char) : Bool :=
  ranges.any fun range => range.1 ≤ char.toNat && char.toNat ≤ range.2

end Relink
