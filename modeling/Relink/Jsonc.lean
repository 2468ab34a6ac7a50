import Relink.Text.Blank

/-!
# JSON with comments

Configuration files are JSON texts with comments and with commas that may trail
the last member.  `strip` takes both out in one pass and leaves every character
that stays on its line.  `dropComments` and `dropTrailingCommas` do the same in two
passes, each with one concern.
-/

namespace Relink

namespace Jsonc

/-! ## One pass -/

mutual

/-- Whether a closing bracket follows blanks and comments. -/
def closes : Text → Bool
  | '/' :: '/' :: rest => closesAfterLine rest
  | '/' :: '*' :: rest => closesAfterBlock rest
  | '}' :: _ => true
  | ']' :: _ => true
  | char :: rest => isBlank char && closes rest
  | [] => false

/-- Whether a closing bracket follows the rest of a line comment. -/
def closesAfterLine : Text → Bool
  | '\n' :: rest => closes rest
  | _ :: rest => closesAfterLine rest
  | [] => false

/-- Whether a closing bracket follows the rest of a block comment. -/
def closesAfterBlock : Text → Bool
  | '*' :: '/' :: rest => closes rest
  | _ :: rest => closesAfterBlock rest
  | [] => false

end

mutual

/-- The text without comments and trailing commas.  Strings stay as they are. -/
def strip : Text → Text
  | '"' :: rest => '"' :: stripString rest
  | '/' :: '/' :: rest => stripLine rest
  | '/' :: '*' :: rest => stripBlock rest
  | ',' :: rest => if closes rest then strip rest else ',' :: strip rest
  | char :: rest => char :: strip rest
  | [] => []

/-- The rest of a string, and what follows it stripped. -/
def stripString : Text → Text
  | '\\' :: char :: rest => '\\' :: char :: stripString rest
  | '"' :: rest => '"' :: strip rest
  | char :: rest => char :: stripString rest
  | [] => []

/-- What follows the rest of a line comment, stripped. -/
def stripLine : Text → Text
  | '\n' :: rest => '\n' :: strip rest
  | _ :: rest => stripLine rest
  | [] => []

/-- What follows the rest of a block comment, stripped.  The line ends of the
comment stay. -/
def stripBlock : Text → Text
  | '*' :: '/' :: rest => strip rest
  | '\n' :: rest => '\n' :: stripBlock rest
  | _ :: rest => stripBlock rest
  | [] => []

end

/-! ## Two passes -/

mutual

def dropComments : Text → Text
  | '"' :: rest => '"' :: dropCommentsString rest
  | '/' :: '/' :: rest => dropCommentsLine rest
  | '/' :: '*' :: rest => dropCommentsBlock rest
  | char :: rest => char :: dropComments rest
  | [] => []

/-- The rest of a string, and what follows it without comments. -/
def dropCommentsString : Text → Text
  | '\\' :: char :: rest => '\\' :: char :: dropCommentsString rest
  | '"' :: rest => '"' :: dropComments rest
  | char :: rest => char :: dropCommentsString rest
  | [] => []

def dropCommentsLine : Text → Text
  | '\n' :: rest => '\n' :: dropComments rest
  | _ :: rest => dropCommentsLine rest
  | [] => []

/-- What follows the rest of a block comment, behind the line ends of it. -/
def dropCommentsBlock : Text → Text
  | '*' :: '/' :: rest => dropComments rest
  | '\n' :: rest => '\n' :: dropCommentsBlock rest
  | _ :: rest => dropCommentsBlock rest
  | [] => []

end

/-- Whether the next character that is not blank is a closing bracket. -/
def bracketNext (text : Text) : Bool :=
  match text.dropWhile isBlank with
  | '}' :: _ => true
  | ']' :: _ => true
  | _ => false

mutual

/-- The text without the commas that a closing bracket follows. -/
def dropTrailingCommas : Text → Text
  | '"' :: rest => '"' :: dropTrailingCommasString rest
  | ',' :: rest =>
      if bracketNext rest then dropTrailingCommas rest else ',' :: dropTrailingCommas rest
  | char :: rest => char :: dropTrailingCommas rest
  | [] => []

/-- The rest of a string, and what follows it without trailing commas. -/
def dropTrailingCommasString : Text → Text
  | '\\' :: char :: rest => '\\' :: char :: dropTrailingCommasString rest
  | '"' :: rest => '"' :: dropTrailingCommas rest
  | char :: rest => char :: dropTrailingCommasString rest
  | [] => []

end

end Jsonc

end Relink
