import Relink.Tree

/-!
# Tokens

The pieces that source text is cut into.  How a piece is cut depends on where it
stands: a slash may begin a regular expression, a closing brace may go on with a
template, and text between markup tags is taken as it is.  The parser knows where it
stands and asks for the cut it needs.
-/

namespace Relink

namespace Syntax

/-- What a token is.  A template token runs from a backquote or a closing brace to
the next substitution or to the closing backquote. -/
inductive Shape
  | finish
  | word (text : Text)
  | privateName (text : Text)
  | number
  | bigint
  | regex (flagsFit : Bool)
  | string (value : Text)
  | template (cooked : Option Text) (piece : Text) (closed : Bool)
  | mark (text : String)
  | tagStart
  | tagName
  | tagEnd
  | markupText (value : Text) (clean : Bool)
  | bad
deriving DecidableEq, Repr, Inhabited

/-- A token with its source text and whether a line ends before it. -/
structure Token where
  shape : Shape
  span : Span
  source : Text
  onNewLine : Bool
deriving DecidableEq, Repr, Inhabited

def isOneOf (words : List String) (text : Text) : Bool :=
  words.any (·.toList = text)

/-- The words with a place of their own in the grammar. -/
def keywords : List String :=
  ["await", "break", "case", "catch", "class", "const", "continue", "debugger", "default",
    "delete", "do", "else", "export", "extends", "finally", "for", "function", "if", "import",
    "in", "instanceof", "let", "new", "return", "super", "switch", "this", "throw", "try",
    "typeof", "var", "void", "while", "with", "yield"]

def constantWords : List String := ["true", "false", "null"]

/-- The words that are kept for later, or for declarations. -/
def keptWords : List String :=
  ["enum", "implements", "interface", "package", "private", "protected", "public"]

def isKeyword (word : Text) : Bool := isOneOf keywords word

/-- Whether a word is no name by itself: a keyword or a value. -/
def isFixedWord (word : Text) : Bool := isOneOf (keywords ++ constantWords) word

/-- Whether a word is kept from being a name in a module. -/
def isReserved (word : Text) : Bool := isFixedWord word || isOneOf keptWords word

def joiningMarks : List String :=
  ["+", "-", "*", "/", "%", "**", "<<", ">>", ">>>", "<", ">", "<=", ">=", "==", "!=", "===",
    "!==", "&", "^", "|", "&&", "||", "??"]

namespace Shape

/-- Whether a comment to the end of the line belongs to the token before it. -/
def takesLineComment : Shape → Bool
  | mark text => !joiningMarks.contains text
  | _ => true

/-- Whether a comment within the line belongs to the token before it. -/
def takesBlockComment : Shape → Bool
  | mark text => ["\x7b", "\x7d", ";"].contains text
  | word text => !isFixedWord text
  | privateName text => !isFixedWord (text.drop 1)
  | number | bigint | regex _ | string _ => true
  | template _ _ closed => !closed
  | _ => false

end Shape

end Syntax

end Relink
