import Relink.Text.LetterCase

/-!
# Log levels

How much is logged.  A level is spelled by its name, in any letter case, or by its
number.
-/

namespace Relink

namespace Log

/-- How much is logged, from nothing to everything. -/
inductive Level
  | off
  | error
  | warn
  | info
  | debug
  | trace
deriving DecidableEq, Repr, Inhabited

namespace Level

def all : List Level := [off, error, warn, info, debug, trace]

def rank : Level → Nat
  | off => 0
  | error => 1
  | warn => 2
  | info => 3
  | debug => 4
  | trace => 5

def word : Level → Text
  | off => "off".toList
  | error => "error".toList
  | warn => "warn".toList
  | info => "info".toList
  | debug => "debug".toList
  | trace => "trace".toList

/-- The level with a name, in any letter case. -/
def ofWord? (text : Text) : Option Level :=
  all.find? (·.word = text.toLower)

/-- The number that decimal digits spell, before which a plus sign may stand. -/
def number? (text : Text) : Option Nat :=
  let digits :=
    match text with
    | '+' :: rest => rest
    | _ => text
  if digits ≠ [] ∧ digits.all Char.isDigit then
    some (digits.foldl (fun value digit => 10 * value + (digit.toNat - '0'.toNat)) 0)
  else
    none

def ofNumber? (text : Text) : Option Level :=
  (number? text).bind fun number => all.find? (·.rank = number)

/-- The level that a name or a number stands for. -/
def of? (text : Text) : Option Level :=
  (ofNumber? text).or (ofWord? text)

def max (first second : Level) : Level :=
  if first.rank < second.rank then second else first

/-- The highest one of some levels, `off` if there are none. -/
def highest (levels : List Level) : Level :=
  levels.foldl max off

end Level

end Log

end Relink
