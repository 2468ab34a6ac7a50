import Relink.Log.Pattern
import Relink.Log.Record
import Relink.Text.Alphanumeric
import Relink.Text.Blank

/-!
# Log directives

A directive says how much is logged of something: a target and all targets that begin
with it, what stands in a scope with a name or a field, or everything.  The names of
levels alone can be made to speak of this library alone.
-/

namespace Relink

namespace Log

/-! ## Scoping -/

/-- Whether a directive is the name of a level. -/
def isLevelName (directive : Text) : Bool :=
  (Level.ofWord? directive).isSome

/-- A directive that is the name of a level, for this library alone, and any other
directive as it is. -/
def toOwn (directive : Text) : Text :=
  if isLevelName directive then ownTarget ++ '=' :: directive else directive

/-- The directives of a text, without blanks around them. -/
def directives (text : Text) : List Text :=
  ((Text.splitOn ',' text).map Text.trim).filter (· ≠ [])

/-- A text of directives in which the names of levels are for this library alone. -/
def scopedDirectives (text : Text) : Text :=
  Text.joinWith ',' ((directives text).map toOwn)

/-! ## Fields -/

/-- What the value of a field has to be: a flag or a number, or a text that a pattern
describes. -/
inductive Wanted
  | scalar
  | text (pattern : Pattern)
deriving DecidableEq, Repr

/-- A field that has to be there, perhaps with a value. -/
structure Condition where
  name : Text
  value : Option Wanted
deriving DecidableEq, Repr

/-- What follows a run of digits, and whether there were any. -/
def skipDigits (text : Text) : Bool × Text :=
  (text.head?.any Char.isDigit, text.dropWhile Char.isDigit)

def withoutSign : Text → Text
  | '+' :: rest | '-' :: rest => rest
  | text => text

/-- Whether a text is the exponent of a number, or empty. -/
def isExponent : Text → Bool
  | [] => true
  | mark :: rest =>
      (mark = 'e' || mark = 'E') && skipDigits (withoutSign rest) = (true, [])

/-- Whether a text spells a number, which may have a fraction. -/
def isNumber (text : Text) : Bool :=
  let text := withoutSign text
  let (whole, rest) := skipDigits text
  let (part, rest) :=
    match rest with
    | '.' :: rest => skipDigits rest
    | _ => (false, rest)
  ((whole || part) && isExponent rest) ||
    ["inf", "infinity", "nan"].any (·.toList = text.toAsciiLower)

/-- What the text behind the equals sign of a condition asks for. -/
def Wanted.of? (text : Text) : Option Wanted :=
  if text = "true".toList ∨ text = "false".toList ∨ isNumber text then some .scalar
  else (Pattern.of? text).map .text

/-! ## Directives -/

/-- A directive: the target, the scope and the field it is about, if it names them, and
how much is logged. -/
structure Directive where
  target : Option Text
  scope : Option Text
  condition : Option Condition
  level : Level
deriving DecidableEq, Repr

/-- Why a text is no directive. -/
inductive DirectiveError
  | malformed
  | level
  | pattern
deriving DecidableEq, Repr

def DirectiveError.message : DirectiveError → String
  | malformed => "invalid filter directive"
  | level => "error parsing level filter: expected one of \"off\", \"error\", \"warn\", " ++
      "\"info\", \"debug\", \"trace\", or a number 0-5"
  | pattern => "invalid field filter: error building NFA"

/-- The condition that a text between braces spells. -/
def Condition.read (text : Text) : Except DirectiveError Condition :=
  if text = [] then .error .malformed
  else
    match Text.splitOn '=' text with
    | name :: value :: _ =>
        match Wanted.of? value with
        | some wanted => .ok ⟨name, some wanted⟩
        | none => .error .pattern
    | _ => .ok ⟨text, none⟩

namespace Directive

/-- Whether a character may begin the name of a target. -/
def beginsTarget (char : Char) : Bool :=
  Text.isAlphanumeric char || char = '_' || char = ':' || char = '-'

/-- What is read of a directive, and where it began. -/
inductive Stage
  | start
  | target (start : Nat)
  | scope (start : Nat)
  | condition (start : Nat)
  | conditionEnd
  | scopeEnd
  | level (start : Nat)

/-- The part of a text between two places, which are counted in bytes. -/
def slice (text : Text) (start stop : Nat) : Text :=
  Text.takeBytes (stop - start) (Text.dropBytes start text)

/-- What the character at a place does to what was read before it. -/
def step (text : Text) (place : Nat) (char : Char) :
    Directive × Stage → Except DirectiveError (Directive × Stage)
  | (found, .start) =>
      if char = '[' then .ok (found, .scope (place + 1))
      else if beginsTarget char then .ok (found, .target place)
      else .error .malformed
  | (found, .target start) =>
      if char = '=' then
        .ok ({ found with target := some (slice text start place) }, .level (place + 1))
      else if char = '[' then
        .ok ({ found with target := some (slice text start place) }, .scope (place + 1))
      else
        .ok (found, .target start)
  | (found, .scope start) =>
      let name := slice text start place
      if char = ']' then .ok ({ found with scope := some name }, .scopeEnd)
      else if char = '\x7b' then
        .ok ({ found with scope := if name = [] then none else some name },
          .condition (place + 1))
      else
        .ok (found, .scope start)
  | (found, .condition start) =>
      if char = '\x7d' then do
        let condition ← Condition.read (slice text start place)
        .ok ({ found with condition := some condition }, .conditionEnd)
      else
        .ok (found, .condition start)
  | (found, .conditionEnd) => if char = ']' then .ok (found, .scopeEnd) else .error .malformed
  | (found, .scopeEnd) => if char = '=' then .ok (found, .level (place + 1)) else .error .malformed
  | (found, .level start) => .ok (found, .level start)

/-- What was read up to the end of a text.  What is no level is a target, of which
everything is logged. -/
def finish (text : Text) : Directive × Stage → Except DirectiveError Directive
  | (found, .target start) =>
      let word := Text.dropBytes start text
      if word = [] then .ok found
      else
        match Level.of? word with
        | some level => .ok { found with level := level }
        | none => .ok { found with target := some word }
  | (found, .level start) =>
      let word := Text.dropBytes start text
      if word = [] then .ok found
      else
        match Level.of? word with
        | some level => .ok { found with level := level }
        | none => .error .level
  | (found, .scopeEnd) => .ok found
  | (_, .start) | (_, .scope _) | (_, .condition _) | (_, .conditionEnd) => .error .malformed

def readFrom (text : Text) :
    Nat → Directive × Stage → Text → Except DirectiveError Directive
  | _, state, [] => finish text state
  | place, state, char :: rest => do
      readFrom text (place + char.utf8Size) (← step text place char state) rest

/-- The directive that a text spells.  Blanks around it do not count as characters, but
they shift the parts that are cut out. -/
def read (text : Text) : Except DirectiveError Directive :=
  readFrom text 0 (⟨none, none, none, .trace⟩, .start) text.trim

end Directive

end Log

end Relink
