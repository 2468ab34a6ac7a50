import Relink.Text.CaseTables
import Relink.Text.Ranges
import Relink.Text.Split

/-!
# Letter case

The small form of a text by the full Unicode mapping: most letters map to one
letter, the dotted capital I maps to two characters, and a capital sigma at the
end of a word maps to the final sigma.
-/

namespace Relink

namespace LetterCase

def isCased (char : Char) : Bool :=
  if char.toNat < 0x80 then char.isAlpha else inRanges casedRanges char

/-- Whether casing rules look through a character. -/
def isCaseIgnorable (char : Char) : Bool :=
  if char.toNat < 0x80 then
    char = '\'' || char = '.' || char = ':' || char = '^' || char = '\x60'
  else
    inRanges caseIgnorableRanges char

def capitalRun? (code : Nat) : Option CapitalRun :=
  capitalRuns.find? fun run =>
    run.first ≤ code && code ≤ run.last && (code - run.first) % run.step = 0

/-- The small form of one character, wherever it stands. -/
def lowerChar (char : Char) : Text :=
  if char.toNat < 0x80 then
    [char.toLower]
  else if char.toNat = 0x130 then
    ['i', '\u0307']
  else
    match capitalRun? char.toNat with
    | some run => [Char.ofNat (char.toNat + run.shift).toNat]
    | none => [char]

/-- Whether the first character that casing rules do not look through is
cased. -/
def startsCased (text : Text) : Bool :=
  match text.dropWhile isCaseIgnorable with
  | char :: _ => isCased char
  | [] => false

/-- The small form of the characters of `text`; `before` holds those already
passed, the nearest first. -/
def lowerFrom (before : Text) : Text → Text
  | [] => []
  | char :: rest =>
      (if char = 'Σ' then
        [if startsCased before && !startsCased rest then 'ς' else 'σ']
      else
        lowerChar char) ++ lowerFrom (char :: before) rest

end LetterCase

def Text.toLower (text : Text) : Text :=
  LetterCase.lowerFrom [] text

/-- The small form of the ASCII capitals of a text. -/
def Text.toAsciiLower (text : Text) : Text :=
  text.map Char.toLower

end Relink
