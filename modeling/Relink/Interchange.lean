import Relink.Json.Value
import Relink.Tree

/-!
# Trees as JSON

Program trees are exchanged with other tools as JSON.  Every object, array and plain
value becomes a node, and the objects that stand for declarations and calls with a
specifier become requests.  Writing a tree that was read gives the JSON back, with the
literals of rewritten requests in their places.
-/

namespace Relink

namespace Interchange

/-- What a node of an exchanged tree was.  An object that is a request keeps the key
of its slot. -/
inductive Label
  | null
  | flag (value : Bool)
  | number (mantissa : Int) (places : Nat)
  | text (value : Text)
  | array
  | object (keys : List Text)
deriving DecidableEq, Repr, Inhabited

def member? (key : String) (members : List (Text × Json)) : Option Json :=
  (members.find? (·.1 = key.toList)).map Prod.snd

def text? : Json → Option Text
  | .text value => some value
  | _ => none

def flag? : Json → Option Bool
  | .flag value => some value
  | _ => none

def items? : Json → Option (List Json)
  | .array items => some items
  | _ => none

def kind? : Json → Option Text
  | .object members => (member? "type" members).bind text?
  | _ => none

/-! ## Literals -/

def count? : Json → Option Nat
  | .number mantissa 0 => mantissa.toNat?
  | _ => none

def optionalText? : Option Json → Option (Option Text)
  | none | some .null => some none
  | some (.text value) => some (some value)
  | _ => none

def span? : Json → Option Span
  | .object members => do
      let start ← count? (← member? "start" members)
      let stop ← count? (← member? "end" members)
      some ⟨start, stop⟩
  | _ => none

def spread? : Option Json → Option (Option Span)
  | none | some .null => some none
  | some span => (span? span).map some

def quasi? : Json → Option Quasi
  | .object members => do
      let span ← span? (← member? "span" members)
      let tail ← flag? (← member? "tail" members)
      let cooked ← optionalText? (member? "cooked" members)
      let raw ← text? (← member? "raw" members)
      some ⟨span, tail, cooked, raw⟩
  | _ => none

def string? : Json → Option Literal
  | .object members =>
      if kind? (.object members) = some "StringLiteral".toList then do
        let span ← span? (← member? "span" members)
        let value ← text? (← member? "value" members)
        let raw ← optionalText? (member? "raw" members)
        some (.string span value raw)
      else
        none
  | _ => none

/-- A template literal without substitutions. -/
def template? : Json → Option Literal
  | .object members =>
      if kind? (.object members) = some "TemplateLiteral".toList then do
        let span ← span? (← member? "span" members)
        match ← items? (← member? "expressions" members),
            ← (← items? (← member? "quasis" members)).mapM quasi? with
        | [], first :: rest => some (.template span first rest)
        | _, _ => none
      else
        none
  | _ => none

def ofSpan (span : Span) : Json :=
  .object [("start".toList, .number span.start 0), ("end".toList, .number span.stop 0)]

def ofText? (text : Option Text) : Json :=
  text.elim .null .text

def ofQuasi (quasi : Quasi) : Json :=
  .object [("type".toList, .text "TemplateElement".toList), ("span".toList, ofSpan quasi.span),
    ("tail".toList, .flag quasi.tail), ("cooked".toList, ofText? quasi.cooked),
    ("raw".toList, .text quasi.raw)]

def ofLiteral : Literal → Json
  | .string span value raw =>
      .object [("type".toList, .text "StringLiteral".toList), ("span".toList, ofSpan span),
        ("value".toList, .text value), ("raw".toList, ofText? raw)]
  | .template span first rest =>
      .object [("type".toList, .text "TemplateLiteral".toList), ("span".toList, ofSpan span),
        ("expressions".toList, .array []),
        ("quasis".toList, .array ((first :: rest).map ofQuasi))]

/-! ## Requests -/

def declarationForms : List (String × Form) :=
  [("ImportDeclaration", .importDeclaration), ("ExportNamedDeclaration", .exportNamed),
    ("ExportAllDeclaration", .exportAll)]

/-- The first argument of a call as a request. -/
def argument? : Json → Option Request
  | .object members => do
      let expression ← member? "expression" members
      let slot ← (string? expression).or (template? expression)
      let spread ← spread? (member? "spread" members)
      some ⟨.importCall spread, slot⟩
  | _ => none

/-- An object as a request: a declaration with a source, or a call of `import` with a literal
for its first argument. -/
def request? (members : List (Text × Json)) : Option Request := do
  let kind ← kind? (.object members)
  match declarationForms.find? (·.1.toList = kind) with
  | some (_, form) => some ⟨form, ← string? (← member? "source" members)⟩
  | none =>
      if kind = "CallExpression".toList ∧
          (member? "callee" members).bind kind? = some "Import".toList then
        argument? (← (← items? (← member? "arguments" members)).head?)
      else
        none

/-- The key of the member in which the slot of a request stands. -/
def slotKey : Form → String
  | .importCall _ => "arguments"
  | _ => "source"

/-- What is left of the member in which the slot of a request stood: nothing of a
source, and the further arguments of a call. -/
def withoutSlot (form : Form) (member : Tree Label) : List (Tree Label) :=
  match form, member with
  | .importCall _, .node label (_ :: rest) => [.node label rest]
  | _, _ => []

/-- The children of a request, given the keys and trees of all members. -/
def requestChildren (form : Form) : List Text → List (Tree Label) → List (Tree Label)
  | key :: keys, member :: rest =>
      if key = (slotKey form).toList then withoutSlot form member ++ rest
      else member :: requestChildren form keys rest
  | _, rest => rest

/-- The first argument of a call. -/
def ofArgument (spread : Option Span) (slot : Literal) : Json :=
  .object [("spread".toList, spread.elim .null ofSpan), ("expression".toList, ofLiteral slot)]

/-- The member in which the slot of a request stands, given what is left of it, and
the members after it. -/
def slotMember (form : Form) (slot : Literal) (rest : List Json) : Json × List Json :=
  match form, rest with
  | .importCall spread, .array others :: rest => (.array (ofArgument spread slot :: others), rest)
  | _, rest => (ofLiteral slot, rest)

/-- The members of the object of a request, given their keys and what is left of their values. -/
def requestMembers (form : Form) (slot : Literal) :
    List Text → List Json → List (Text × Json)
  | [], _ => []
  | key :: keys, values =>
      if key = (slotKey form).toList then
        let (member, rest) := slotMember form slot values
        (key, member) :: keys.zip rest
      else
        match values with
        | [] => []
        | value :: rest => (key, value) :: requestMembers form slot keys rest

/-! ## Whole trees -/

mutual

def ofJson : Json → Tree Label
  | .null => .node .null []
  | .flag value => .node (.flag value) []
  | .number mantissa places => .node (.number mantissa places) []
  | .text value => .node (.text value) []
  | .array items => .node .array (ofItems items)
  | .object members =>
      let keys := members.map Prod.fst
      let children := ofMembers members
      match request? members with
      | some request =>
          .request request.form (.object keys) request.slot
            (requestChildren request.form keys children)
      | none => .node (.object keys) children

def ofItems : List Json → List (Tree Label)
  | [] => []
  | item :: rest => ofJson item :: ofItems rest

def ofMembers : List (Text × Json) → List (Tree Label)
  | [] => []
  | (_, value) :: rest => ofJson value :: ofMembers rest

end

mutual

def toJson : Tree Label → Json
  | .node label children =>
      match label with
      | .null => .null
      | .flag value => .flag value
      | .number mantissa places => .number mantissa places
      | .text value => .text value
      | .array => .array (toItems children)
      | .object keys => .object (keys.zip (toItems children))
  | .request form label slot children =>
      match label with
      | .object keys => .object (requestMembers form slot keys (toItems children))
      | _ => .array (toItems children)

def toItems : List (Tree Label) → List Json
  | [] => []
  | tree :: rest => toJson tree :: toItems rest

end

def isModule (program : Json) : Bool :=
  kind? program = some "Module".toList

end Interchange

end Relink
