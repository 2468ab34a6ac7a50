import Relink.Text.LetterCase

/-!
# File names in comparisons

Where the file system does not tell capitals from small letters, names are
compared in their small form.
-/

namespace Relink

/-- The form in which file names are compared. -/
def canonicalFileName (caseSensitive : Bool) (name : Text) : Text :=
  if caseSensitive then name else name.toLower

end Relink
