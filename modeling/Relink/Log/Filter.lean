import Relink.Log.Directive

/-!
# Log filters

Which records are logged.  Directives that name no scope and no value are about records
wherever they stand: of those that fit a record the one that says most about it counts.
The other directives make a scope visible and let its records through up to a level.
-/

namespace Relink

namespace Log

namespace Directive

def coversTarget (target : Text) (directive : Directive) : Bool :=
  directive.target.all (·.isPrefixOf target)

/-- Whether a directive asks for the value of a field. -/
def asksValue (directive : Directive) : Bool :=
  directive.condition.any (·.value.isSome)

/-- Whether a directive is about records wherever they stand. -/
def isStatic (directive : Directive) : Bool :=
  directive.scope.isNone && !directive.asksValue

def isDynamic (directive : Directive) : Bool :=
  directive.scope.isSome || directive.condition.isSome

/-- Whether a directive is about a record with some names. -/
def coversRecord (record : Record) (directive : Directive) : Bool :=
  directive.coversTarget record.target &&
    directive.condition.all fun condition => record.names.contains condition.name

def coversScope (scope : Scope) (directive : Directive) : Bool :=
  directive.coversTarget rewritingTarget &&
    directive.scope.all (· = Scope.name.toList) &&
    directive.condition.all fun condition => (scope.text? condition.name).isSome

/-- Whether a scope has the value that a directive asks for.  All values of scopes are
texts. -/
def fitsScope (scope : Scope) (directive : Directive) : Bool :=
  directive.condition.all fun condition =>
    match condition.value with
    | none => true
    | some .scalar => false
    | some (.text pattern) => (scope.text? condition.name).any pattern.endsText

/-- Whether a directive says at least as much as another one about what both cover: by
the length of its target, by asking for a field, and by the name of the field. -/
def outranks (first second : Directive) : Bool :=
  let length (directive : Directive) :=
    directive.target.elim 0 fun target => Text.byteLength target + 1
  let name (directive : Directive) := directive.condition.map Condition.name
  if length first ≠ length second then length second < length first
  else
    match name first, name second with
    | none, none => true
    | some _, none => true
    | none, some _ => false
    | some first, some second => !first.lex second fun left right => left < right

end Directive

/-- A filter: directives, of which later ones replace earlier ones. -/
structure Filter where
  directives : List Directive
deriving DecidableEq, Repr

namespace Filter

/-- The directives of a text that can be read, with the errors of the others. -/
def read (text : Text) : List (Text × Except DirectiveError Directive) :=
  ((Text.splitOn ',' text).filter (· ≠ [])).map fun piece => (piece, Directive.read piece)

/-- The filter of a text.  Without any directive only errors are logged. -/
def of (text : Text) : Filter :=
  match (read text).filterMap fun (_, found) => found.toOption with
  | [] => ⟨[⟨none, none, none, .error⟩]⟩
  | found => ⟨found⟩

/-- The directives of a text that cannot be read. -/
def unread (text : Text) : List (Text × DirectiveError) :=
  (read text).filterMap fun (piece, found) =>
    match found with
    | .ok _ => none
    | .error error => some (piece, error)

/-- The directives about records wherever they stand, those about scopes too behind the
others. -/
def statics (filter : Filter) : List Directive :=
  let found := filter.directives.filter Directive.isStatic
  found.filter (!·.isDynamic) ++ found.filter (·.isDynamic)

def dynamics (filter : Filter) : List Directive :=
  filter.directives.filter Directive.isDynamic

/-- The directive that says most, the last one of equals. -/
def closest? (directives : List Directive) : Option Directive :=
  directives.foldl (fun best directive =>
    if best.all directive.outranks then some directive else best) none

/-- How much the closest one of the directives that fit lets through. -/
def levelAmong (directives : List Directive) : Level :=
  ((closest? directives).map Directive.level).getD .off

/-- How much is logged of a record wherever it stands. -/
def levelFor (filter : Filter) (record : Record) : Level :=
  levelAmong (filter.statics.filter (·.coversRecord record))

/-- The level above which nothing at all is logged. -/
def bound (filter : Filter) : Level :=
  if filter.directives.any Directive.asksValue then .trace
  else Level.highest (filter.directives.map Directive.level)

def shows (filter : Filter) (scope : Scope) : Bool :=
  let named := filter.dynamics.any (·.coversScope scope)
  let level := levelAmong (filter.statics.filter (·.coversTarget rewritingTarget))
  Scope.level.rank ≤ filter.bound.rank && (named || Scope.level.rank ≤ level.rank)

def levelWithin (filter : Filter) (scope : Scope) : Level :=
  if filter.shows scope then
    Level.highest ((filter.dynamics.filter fun directive =>
      directive.coversScope scope && directive.fitsScope scope).map Directive.level)
  else
    .off

/-- Whether a record is logged, which may stand in a scope. -/
def allows (filter : Filter) (scope : Option Scope) (record : Record) : Bool :=
  record.level.rank ≤ (filter.levelFor record).rank ||
    scope.any fun scope => record.level.rank ≤ (filter.levelWithin scope).rank

/-- The records of events that a filter lets through. -/
def records (filter : Filter) (scope : Option Scope) (events : List Event) : List Record :=
  (events.filterMap Record.ofEvent?).filter (filter.allows scope)

def visibleScope (filter : Filter) (scope : Option Scope) : Option Scope :=
  scope.filter filter.shows

end Filter

end Log

end Relink
