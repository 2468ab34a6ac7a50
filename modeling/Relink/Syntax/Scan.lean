import Relink.Syntax.Characters
import Relink.Syntax.Comments
import Relink.Syntax.Token
import Relink.Text.CharacterReferences

/-!
# Cutting tokens

Each function here looks at the front of a text.  It gives what it found and the text
behind it, or nothing if the text does not begin that way.
-/

namespace Relink

namespace Syntax

namespace Scan

/-! ## Escapes -/

def fourDigits? : Text → Option (Nat × Text)
  | a :: b :: c :: d :: rest =>
      if [a, b, c, d].all fun char => (digit? 16 char).isSome then
        some (hexValue [a, b, c, d], rest)
      else
        none
  | _ => none

/-- The code point that a row of digits spells. -/
def anyDigits? (text : Text) : Option (Nat × Text) :=
  let digits := text.takeWhile fun char => (digit? 16 char).isSome
  if digits ≠ [] ∧ hexValue digits ≤ 0x10FFFF then
    some (hexValue digits, text.drop digits.length)
  else
    none

/-- What follows `\u`.  A code point without a character stands for its spelling. -/
def unicode? : Text → Option (Text × Text)
  | '{' :: rest => do
      let (code, behind) ← anyDigits? rest
      let (value, behind) :=
        if code.isValidChar then ([Char.ofNat code], behind)
        else
          let spelling := (rest.take 6).takeWhile (· ≠ '}')
          ('\\' :: 'u' :: '{' :: spelling ++ ['}'], rest.drop spelling.length)
      match behind with
      | '}' :: behind => some (value, behind)
      | _ => none
  | text => do
      let (code, behind) ← fourDigits? text
      if code.isValidChar then some ([Char.ofNat code], behind)
      else some ('\\' :: 'u' :: text.take 4, behind)

/-- Whether a character is a digit below eight. -/
def isOctal (char : Char) : Bool := (digit? 8 char).isSome

/-- What a backslash before `text` stands for, none if it has no meaning. -/
def escape? (text : Text) : Option (Text × Text) :=
  match text with
  | [] => none
  | 'n' :: rest => some (['\n'], rest)
  | 't' :: rest => some (['\t'], rest)
  | 'r' :: rest => some (['\r'], rest)
  | 'b' :: rest => some (['\x08'], rest)
  | 'f' :: rest => some (['\x0c'], rest)
  | 'v' :: rest => some (['\x0b'], rest)
  | 'u' :: rest => unicode? rest
  | 'x' :: first :: second :: rest => do
      let high ← digit? 16 first
      let low ← digit? 16 second
      some ([Char.ofNat (16 * high + low)], rest)
  | ['x'] | ['x', _] => none
  | '\r' :: '\n' :: rest => some ([], rest)
  | char :: rest =>
      if isLineEnd char then some ([], rest)
      else if char = '0' ∧ !(rest.head?.any isOctal) then some (['\x00'], rest)
      else if isOctal char then none
      else some ([char], rest)

/-! ## Strings, templates and regular expressions -/

/-- The value of a string whose opening quote was passed. -/
def stringBody? (quote : Char) : (limit : Nat) → Text → Option (Text × Text)
  | 0, _ => none
  | _, [] => none
  | limit + 1, '\\' :: rest => do
      let (value, rest) ← escape? rest
      let (more, rest) ← stringBody? quote limit rest
      some (value ++ more, rest)
  | limit + 1, char :: rest =>
      if char = quote then some ([], rest)
      else if char = '\n' ∨ char = '\r' then none
      else do
        let (more, rest) ← stringBody? quote limit rest
        some (char :: more, rest)

/-- A stretch of a template: its cooked text, its source text, and whether the
template ends behind it. -/
structure Stretch where
  cooked : Option Text
  piece : Text
  closed : Bool

def Stretch.after (cooked : Option Text) (piece : Text) (stretch : Stretch) : Stretch :=
  { stretch with
    cooked := cooked.bind fun front => stretch.cooked.map (front ++ ·)
    piece := piece ++ stretch.piece }

/-- The stretch of a template up to a substitution or the end. -/
def templateBody? : (limit : Nat) → Text → Option (Stretch × Text)
  | 0, _ => none
  | _, [] => none
  | _, '\x60' :: rest => some (⟨some [], [], true⟩, rest)
  | _, '$' :: '{' :: rest => some (⟨some [], [], false⟩, rest)
  | limit + 1, '\\' :: rest =>
      let (cooked, behind) :=
        match escape? rest with
        | some (value, behind) => (some value, behind)
        | none => (none, rest.drop 1)
      let piece := '\\' :: rest.take (rest.length - behind.length)
      (templateBody? limit behind).map fun (stretch, rest) => (stretch.after cooked piece, rest)
  | limit + 1, '\r' :: '\n' :: rest =>
      (templateBody? limit rest).map fun (stretch, rest) =>
        (stretch.after (some ['\n']) ['\r', '\n'], rest)
  | limit + 1, char :: rest =>
      (templateBody? limit rest).map fun (stretch, rest) =>
        (stretch.after (some [if char = '\r' then '\n' else char]) [char], rest)

/-- What follows the body of a regular expression whose opening slash was passed. -/
def regexBody? : (inClass : Bool) → Text → Option Text
  | _, [] => none
  | inClass, '\\' :: char :: rest => if isLineEnd char then none else regexBody? inClass rest
  | inClass, char :: rest =>
      if isLineEnd char then none
      else if char = '/' ∧ !inClass then some rest
      else regexBody? (char = '[' || (inClass && char ≠ ']')) rest

/-- Whether letters behind a regular expression are among its flags, each at most
once. -/
def flagsFit (flags : Text) : Bool :=
  flags.all ("dgimsuvy".toList.contains ·) && flags.eraseDups.length = flags.length

/-- A regular expression whose opening slash was passed. -/
def regex? (text : Text) : Option (Shape × Text) := do
  let behind ← regexBody? false text
  let flags := behind.takeWhile continuesName
  some (.regex (flagsFit flags), behind.drop flags.length)

/-! ## Numbers and names -/

/-- What follows a run of digits, between which single underscores may stand. -/
def digits? (base : Nat) : Text → Option Text
  | char :: '_' :: rest => if (digit? base char).isSome then digits? base rest else none
  | char :: next :: rest =>
      if (digit? base char).isNone then none
      else if (digit? base next).isSome then digits? base (next :: rest)
      else some (next :: rest)
  | [char] => if (digit? base char).isSome then some [] else none
  | [] => none

/-- What follows an exponent, or the text itself if it has none. -/
def exponent? : Text → Option Text
  | 'e' :: '+' :: rest | 'e' :: '-' :: rest | 'E' :: '+' :: rest | 'E' :: '-' :: rest =>
      digits? 10 rest
  | 'e' :: rest | 'E' :: rest => digits? 10 rest
  | text => some text

/-- What follows a fraction whose point was passed. -/
def fraction? (text : Text) : Option Text :=
  if text.head?.any Char.isDigit then digits? 10 text
  else if text.head? = some '_' then none
  else some text

/-- A number without what has to be checked behind it. -/
def plainNumber? : Text → Option (Shape × Text)
  | '0' :: mark :: rest =>
      if ['x', 'X'].contains mark then whole? (digits? 16 rest)
      else if ['o', 'O'].contains mark then whole? (digits? 8 rest)
      else if ['b', 'B'].contains mark then whole? (digits? 2 rest)
      else if mark.isDigit ∨ mark = '_' then
        match digits? 10 ('0' :: mark :: rest) with
        | some ('n' :: behind) => some (.bigint, behind)
        | _ => none
      else decimal? (mark :: rest)
  | '.' :: rest => do
      some (.number, ← exponent? (← fraction? rest))
  | text => do
      decimal? (← digits? 10 text)
where
  whole? (behind : Option Text) : Option (Shape × Text) :=
    behind.map fun
      | 'n' :: rest => (.bigint, rest)
      | rest => (.number, rest)
  decimal? : Text → Option (Shape × Text)
    | 'n' :: rest => some (.bigint, rest)
    | '.' :: rest => do
        some (.number, ← exponent? (← fraction? rest))
    | rest => do
        some (.number, ← exponent? rest)

/-- A number, behind which no name and no other digit may follow. -/
def number? (text : Text) : Option (Shape × Text) := do
  let (shape, rest) ← plainNumber? text
  if rest.head?.any fun char => continuesName char || char = '\\' then none
  else some (shape, rest)

/-- The characters of a name, of which the first has to fit unless it is escaped, and
whether some were escaped. -/
def nameBody? (fits : Char → Bool) : (limit : Nat) → Text → Option (Text × Bool × Text)
  | 0, text => some ([], false, text)
  | limit + 1, '\\' :: 'u' :: rest => do
      let ([char], rest) ← unicode? rest | none
      if continuesName char then
        let (more, _, rest) ← nameBody? continuesName limit rest
        some (char :: more, true, rest)
      else
        none
  | limit + 1, char :: rest =>
      if fits char then do
        let (more, escaped, rest) ← nameBody? continuesName limit rest
        some (char :: more, escaped, rest)
      else if char = '\\' then none
      else some ([], false, char :: rest)
  | _, [] => some ([], false, [])

/-- A name, of which no character may be escaped if it is reserved. -/
def name? (text : Text) : Option (Text × Text) := do
  let (name, escaped, rest) ← nameBody? beginsName text.length text
  if name = [] ∨ (escaped ∧ isReserved name) then none else some (name, rest)

/-! ## Marks -/

/-- The marks, those first that begin with others. -/
def marks : List String :=
  ["...", "===", "!==", "**=", "<<=", "&&=", "||=", "??=", ">>>=", ">>>", ">>=",
    "=>", "==", "!=", "++", "--", "<<", ">>", "**", "+=", "-=", "*=", "/=", "%=", "&=", "|=",
    "^=", "&&", "||", "??", "<=", ">=", "?.",
    "\x7b", "\x7d", "(", ")", "[", "]", ";", ",", ".", "<", ">", "?", ":", "=", "!", "~",
    "+", "-", "*", "/", "%", "&", "^", "|", "@", "#"]

/-- A mark.  A question mark and a point are two marks before a digit, and what looks
like a comment of markup is none. -/
def mark? (text : Text) : Option (String × Text) :=
  match text with
  | '?' :: '.' :: rest =>
      if rest.head?.any Char.isDigit then some ("?", '.' :: rest) else some ("?.", rest)
  | '<' :: '!' :: '-' :: '-' :: _ => none
  | text =>
      (marks.find? fun mark => mark.toList.isPrefixOf text).map fun mark =>
        (mark, text.drop mark.length)

def angle? : Text → Option (Shape × Text)
  | '<' :: rest => some (.mark "<", rest)
  | '>' :: rest => some (.mark ">", rest)
  | _ => none

/-- An angle with all that belongs to the mark it begins. -/
def wholeAngle? (text : Text) : Option (Shape × Text) :=
  if text.head? = some '<' ∨ text.head? = some '>' then
    (mark? text).map fun (mark, rest) => (.mark mark, rest)
  else
    none

/-! ## Whole tokens -/

/-- The shape at the front of a text that is not blank.  `singleAngles` says that angles
are marks of their own. -/
def shape (singleAngles : Bool) (text : Text) : Shape × Text :=
  match text with
  | [] => (.finish, [])
  | '/' :: '*' :: _ => (.bad, text)
  | '\x60' :: rest =>
      match templateBody? (rest.length + 1) rest with
      | some (stretch, rest) => (.template stretch.cooked stretch.piece stretch.closed, rest)
      | none => (.bad, text)
  | '#' :: rest =>
      match name? rest with
      | some (name, rest) => (.privateName ('#' :: name), rest)
      | none => (.bad, text)
  | char :: rest =>
      if char = '"' ∨ char = '\'' then
        match stringBody? char (rest.length + 1) rest with
        | some (value, rest) => (.string value, rest)
        | none => (.bad, text)
      else if char.isDigit ∨ (char = '.' ∧ rest.head?.any Char.isDigit) then
        (number? text).getD (.bad, text)
      else if beginsName char ∨ char = '\\' then
        match name? text with
        | some (name, rest) => (.word name, rest)
        | none => (.bad, text)
      else
        match if singleAngles then angle? text else none with
        | some found => found
        | none =>
            match mark? text with
            | some (mark, rest) => (.mark mark, rest)
            | none => (.bad, text)

/-! ## Markup -/

/-- The character that a reference stands for whose opening mark was passed. -/
def reference? (text : Text) : Option (Char × Text) := do
  let name := (text.take 10).takeWhile (· ≠ ';')
  let ';' :: behind := text.drop name.length | none
  if name.length = 10 then none
  else
    match name with
    | '#' :: 'x' :: digits => do
        some (← numbered? 16 digits, behind)
    | '#' :: digits => do
        some (← numbered? 10 digits, behind)
    | name => do
        some (← CharacterReference.ofName? name, behind)
where
  numbered? (base : Nat) (digits : Text) : Option Char :=
    let code := digits.foldl (fun value char => base * value + (digit? base char).getD 0) 0
    if digits ≠ [] ∧ digits.all (fun char => (digit? base char).isSome) ∧ code.isValidChar then
      some (Char.ofNat code)
    else
      none

def markupValue : (limit : Nat) → Text → Text
  | 0, text => text
  | _, [] => []
  | limit + 1, '&' :: rest =>
      match reference? rest with
      | some (char, behind) => char :: markupValue limit behind
      | none => '&' :: markupValue limit rest
  | limit + 1, '\r' :: '\n' :: rest => '\n' :: markupValue limit rest
  | limit + 1, char :: rest => char :: markupValue limit rest

def markupShape (text : Text) : Shape × Text :=
  match text with
  | [] => (.finish, [])
  | '<' :: rest => (.mark "<", rest)
  | '{' :: rest => (.mark "\x7b", rest)
  | _ =>
      let piece := text.takeWhile fun char => char ≠ '<' && char ≠ '{'
      let clean := piece.all fun char => char ≠ '>' && char ≠ '}'
      (.markupText (markupValue piece.length piece) clean, text.drop piece.length)

/-- The string that may follow the equals sign of an attribute, in which no escape has
a meaning. -/
def markupString? : Text → Option (Shape × Text)
  | char :: rest =>
      if char = '"' ∨ char = '\'' then
        let value := rest.takeWhile (· ≠ char)
        match rest.drop value.length with
        | _ :: behind => some (.string value, behind)
        | [] => some (.bad, rest)
      else
        none
  | [] => none

/-- The name of a tag or an attribute, in which dashes may stand. -/
def markupName? (text : Text) : Option (Text × Text) := do
  let (name, rest) ← name? text
  let more := rest.takeWhile fun char => continuesName char || char = '-'
  some (name ++ more, rest.drop more.length)

/-! ## What stands between tokens -/

/-- What was passed on the way to a token: the place reached, whether a line ended,
and the comments that belong to the next token and to the one before. -/
structure Gap where
  position : Nat
  text : Text
  onNewLine : Bool
  pending : List Comment
  trailing : List Comment

def Gap.blanks (gap : Gap) : Gap :=
  let blanks := gap.text.takeWhile fun char => isSpace char || isLineEnd char
  { gap with
    position := gap.position + Text.byteLength blanks
    text := gap.text.drop blanks.length
    onNewLine := gap.onNewLine || blanks.any isLineEnd }

def Gap.comment (gap : Gap) (comment : Comment) (forNext : Bool) : Gap :=
  if forNext then { gap with pending := gap.pending ++ [comment] }
  else { gap with trailing := gap.trailing ++ [comment] }

/-- The text of a comment whose opening marks were passed, and what follows it. -/
def blockComment? : Text → Option (Text × Text)
  | '*' :: '/' :: rest => some ([], rest)
  | char :: rest => (blockComment? rest).map fun (text, rest) => (char :: text, rest)
  | [] => none

/-- The gap up to the next token.  A comment belongs to the next token if a line
ended before it or if the token before takes none.  A semicolon behind a comment within
the line leaves it to the token before. -/
def Gap.fill (before : Shape) : (limit : Nat) → Gap → Gap
  | 0, gap => gap
  | limit + 1, gap =>
      let gap := gap.blanks
      match gap.text with
      | '/' :: '/' :: rest =>
          let text := rest.takeWhile fun char => !isLineEnd char
          Gap.fill before limit
            ({ gap with
                position := gap.position + 2 + Text.byteLength text
                text := rest.drop text.length }.comment ⟨.line, text⟩
              (gap.onNewLine || !before.takesLineComment))
      | '/' :: '*' :: rest =>
          match blockComment? rest with
          | none => gap
          | some (text, behind) =>
              let passed := { gap with
                position := gap.position + 4 + Text.byteLength text
                text := behind }.blanks
              let forNext := gap.onNewLine ||
                (!before.takesBlockComment && passed.text.head? ≠ some ';')
              Gap.fill before limit
                ({ passed with onNewLine := passed.onNewLine || text.any isLineEnd }.comment
                  ⟨.block, text⟩ forNext)
      | _ => gap

end Scan

end Syntax

end Relink
