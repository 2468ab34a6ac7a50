import Relink.Text.Split

/-!
# Quoting made literals

A string literal that has no source text is written in the quotes that need fewer
escapes: double ones, unless more double than single quotes stand in the string.
-/

namespace Relink

namespace Syntax

namespace Quote

/-- Whether a text goes on with the spelling of a surrogate, which a string cannot hold
as a character.  The backslash before it is kept single. -/
def spellsSurrogate : Text → Bool
  | 'u' :: '{' :: rest => spells rest
  | 'u' :: rest => spells rest
  | _ => false
where
  spells : Text → Bool
    | first :: second :: third :: fourth :: _ =>
        (first = 'd' || first = 'D') && isHigh second && isHex third && isHex fourth
    | _ => false
  isHex (char : Char) : Bool :=
    char.isDigit || ('a' ≤ char && char ≤ 'f') || ('A' ≤ char && char ≤ 'F')
  isHigh (char : Char) : Bool := isHex char && !('0' ≤ char && char ≤ '7')

/-- The two digits of a character below `0x20`. -/
def controlDigits (char : Char) : Text :=
  [if char.toNat < 16 then '0' else '1', Nat.digitChar (char.toNat % 16)]

/-- How a character is written between quotes, given what follows it. -/
def escape (quote char : Char) (rest : Text) : Text :=
  if char = '\x00' then
    if rest.head?.any Char.isDigit then "\\x00".toList else "\\0".toList
  else if char = '\x08' then "\\b".toList
  else if char = '\x0c' then "\\f".toList
  else if char = '\n' then "\\n".toList
  else if char = '\r' then "\\r".toList
  else if char = '\x0b' then "\\v".toList
  else if char = '\t' then ['\t']
  else if char.toNat < 0x20 then "\\x".toList ++ controlDigits char
  else if char = '\\' then if spellsSurrogate rest then ['\\'] else ['\\', '\\']
  else if char = quote then ['\\', quote]
  else if char = '\u2028' then "\\u2028".toList
  else if char = '\u2029' then "\\u2029".toList
  else if char = '\ufeff' then "\\uFEFF".toList
  else [char]

def body (quote : Char) : Text → Text
  | [] => []
  | char :: rest => escape quote char rest ++ body quote rest

def markFor (text : Text) : Char :=
  if text.count '"' > text.count '\'' then '\'' else '"'

end Quote

def quoted (text : Text) : Text :=
  let mark := Quote.markFor text
  mark :: (Quote.body mark text ++ [mark])

end Syntax

end Relink
