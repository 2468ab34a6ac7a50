import Relink.Text.Split

/-!
# JSON values

A value that was read elsewhere.  The members of an object keep their order, and
a number is kept as an integer with a count of decimal places.
-/

namespace Relink

/-- A JSON value. -/
inductive Json
  | null
  | flag (value : Bool)
  | number (mantissa : Int) (places : Nat)
  | text (value : Text)
  | array (items : List Json)
  | object (members : List (Text × Json))
deriving Repr, Inhabited

end Relink
