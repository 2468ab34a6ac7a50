import Relink.Text.Alphanumeric
import Relink.Text.Blank
import Relink.Text.Split

/-!
# Patterns

A pattern describes texts.  It is searched for from the left: of all places where it
fits, the first one counts, and of the ways in which it fits there, the preferred one.
-/

namespace Relink

namespace Log

/-- A set of characters. -/
inductive CharSet
  | between (first last : Char)
  | digit
  | letter
  | blank
  | except (inside : CharSet)
  | either (first second : CharSet)
  | empty
deriving DecidableEq, Repr

def CharSet.has (char : Char) : CharSet → Bool
  | between first last => first ≤ char && char ≤ last
  | digit => char.isDigit
  | letter => Text.isAlphanumeric char || char = '_'
  | blank => isBlank char
  | except inside => !inside.has char
  | either first second => first.has char || second.has char
  | empty => false

/-- A pattern.  The flag of a choice or a repetition says that more is preferred. -/
inductive Pattern
  | nothing
  | oneOf (set : CharSet)
  | sequence (first second : Pattern)
  | either (first second : Pattern)
  | repeated (inside : Pattern) (greedy : Bool)
  | atStart
  | atEnd
deriving DecidableEq, Repr

namespace Pattern

/-! ## Reading -/

/-- The set that a letter behind a backslash stands for, or the character itself if it
has a meaning of its own otherwise. -/
def escapedSet? (char : Char) : Option CharSet :=
  match char with
  | 'd' => some .digit
  | 'D' => some (.except .digit)
  | 'w' => some .letter
  | 'W' => some (.except .letter)
  | 's' => some .blank
  | 'S' => some (.except .blank)
  | 'n' => some (.between '\n' '\n')
  | 'r' => some (.between '\r' '\r')
  | 't' => some (.between '\t' '\t')
  | _ =>
      if "\\.+*?()|[]\x7b\x7d^$#&-~/<>\"'!%,:;=@_\x60 ".toList.contains char then
        some (.between char char)
      else
        none

/-- A single character of a set and what follows it. -/
def setChar? : Text → Option (Char × Text)
  | '\\' :: char :: rest => do
      match ← escapedSet? char with
      | .between first _ => some (first, rest)
      | _ => none
  | '[' :: _ | ']' :: _ | [] => none
  | char :: rest => some (char, rest)

def setEntry? (text : Text) : Option (CharSet × Text) :=
  match setChar? text with
  | some (first, '-' :: rest) =>
      match setChar? rest with
      | some (last, rest) => if first ≤ last then some (.between first last, rest) else none
      | none => some (.between first first, '-' :: rest)
  | some (first, rest) => some (.between first first, rest)
  | none =>
      match text with
      | '\\' :: char :: rest => (escapedSet? char).map (·, rest)
      | _ => none

/-- The entries of a set up to its closing bracket. -/
def setEntries? : (limit : Nat) → CharSet → Text → Option (CharSet × Text)
  | 0, _, _ => none
  | _, set, ']' :: rest => some (set, rest)
  | limit + 1, set, text => do
      let (entry, rest) ← setEntry? text
      setEntries? limit (.either set entry) rest

/-- A set whose opening bracket was passed.  A bracket in front is an entry. -/
def set? (text : Text) : Option (CharSet × Text) :=
  let (turned, text) :=
    match text with
    | '^' :: rest => (true, rest)
    | _ => (false, text)
  let (first, text) :=
    match text with
    | ']' :: rest => (CharSet.between ']' ']', rest)
    | _ => (.empty, text)
  (setEntries? (text.length + 1) first text).map fun (set, rest) =>
    (if turned then .except set else set, rest)

/-- What follows the marks behind the opening bracket of a group. -/
def groupStart? : Text → Option Text
  | '?' :: ':' :: rest => some rest
  | '?' :: 'P' :: '<' :: rest | '?' :: '<' :: rest => some ((rest.dropWhile (· ≠ '>')).drop 1)
  | '?' :: _ => none
  | text => some text

/-- A pattern without marks of repetition.  `group?` reads what stands in brackets. -/
def atom? (group? : Text → Option (Pattern × Text)) : Text → Option (Pattern × Text)
  | [] => none
  | '.' :: rest => some (.oneOf (.except (.between '\n' '\n')), rest)
  | '^' :: rest => some (.atStart, rest)
  | '$' :: rest => some (.atEnd, rest)
  | '[' :: rest => (set? rest).map fun (set, rest) => (.oneOf set, rest)
  | '\\' :: char :: rest =>
      if char = 'A' then some (.atStart, rest)
      else if char = 'z' then some (.atEnd, rest)
      else (escapedSet? char).map fun set => (.oneOf set, rest)
  | '(' :: rest => do
      let (inside, rest) ← group? (← groupStart? rest)
      match rest with
      | ')' :: rest => some (inside, rest)
      | _ => none
  | char :: rest =>
      if "*+?\x7b)|\\".toList.contains char then none
      else some (.oneOf (.between char char), rest)

/-- A pattern with the marks of repetition behind it. -/
def repetitions (inside : Pattern) : Text → Pattern × Text
  | '*' :: '?' :: rest => repetitions (.repeated inside false) rest
  | '*' :: rest => repetitions (.repeated inside true) rest
  | '+' :: '?' :: rest => repetitions (.sequence inside (.repeated inside false)) rest
  | '+' :: rest => repetitions (.sequence inside (.repeated inside true)) rest
  | '?' :: '?' :: rest => repetitions (.either .nothing inside) rest
  | '?' :: rest => repetitions (.either inside .nothing) rest
  | rest => (inside, rest)

def sequence? (group? : Text → Option (Pattern × Text)) :
    (limit : Nat) → Text → Option (Pattern × Text)
  | 0, _ => none
  | limit + 1, text =>
      match text with
      | [] | '|' :: _ | ')' :: _ => some (.nothing, text)
      | _ => do
          let (first, rest) ← atom? group? text
          let (first, rest) := repetitions first rest
          let (more, rest) ← sequence? group? limit rest
          some (.sequence first more, rest)

def choice? (group? : Text → Option (Pattern × Text)) :
    (limit : Nat) → Text → Option (Pattern × Text)
  | 0, _ => none
  | limit + 1, text => do
      let (first, rest) ← sequence? group? (text.length + 1) text
      match rest with
      | '|' :: rest => do
          let (second, rest) ← choice? group? limit rest
          some (.either first second, rest)
      | _ => some (first, rest)

def upTo? : (depth : Nat) → Text → Option (Pattern × Text)
  | 0, _ => none
  | depth + 1, text => choice? (upTo? depth) (text.length + 1) text

def of? (text : Text) : Option Pattern :=
  match upTo? (text.length + 1) text with
  | some (pattern, []) => some pattern
  | _ => none

/-! ## Searching -/

/-- What is left behind the repetitions of a step, the preferred rest first.  Each
place is looked at once: later ways to reach it are not preferred. -/
def rests (step : Text → List Text) (greedy : Bool) :
    (limit : Nat) → List Nat × List Text → Text → List Nat × List Text
  | 0, state, _ => state
  | limit + 1, (passed, found), text =>
      if passed.contains text.length then (passed, found)
      else
        let entered := (text.length :: passed, if greedy then found else found ++ [text])
        let (passed, found) := (step text).foldl (rests step greedy limit) entered
        (passed, if greedy then found ++ [text] else found)

/-- What is left of a text behind a pattern at its front, the preferred rest first.
`whole` is the length of the text that is searched. -/
def behind (whole : Nat) : Pattern → Text → List Text
  | nothing, text => [text]
  | oneOf set, text =>
      match text with
      | first :: rest => if set.has first then [rest] else []
      | [] => []
  | sequence first second, text => (behind whole first text).flatMap (behind whole second)
  | either first second, text => behind whole first text ++ behind whole second text
  | repeated inside greedy, text =>
      (rests (behind whole inside) greedy (text.length + 2) ([], []) text).2
  | atStart, text => if text.length = whole then [text] else []
  | atEnd, text => if text.isEmpty then [text] else []

/-- What is left behind the first occurrence of a pattern. -/
def behindFirst? (whole : Nat) (pattern : Pattern) : Text → Option Text
  | [] => (behind whole pattern []).head?
  | char :: rest => (behind whole pattern (char :: rest)).head?.or (behindFirst? whole pattern rest)

/-- Whether the first occurrence of a pattern in a text goes up to the end of it. -/
def endsText (pattern : Pattern) (text : Text) : Bool :=
  (behindFirst? text.length pattern text).any List.isEmpty

end Pattern

end Log

end Relink
