import Relink.Interchange
import Relink.Proofs.Slots

/-!
# Exchanged trees

An object of an exchanged tree is read as a request exactly if it is a declaration with a string
for its source, or a call of `import` whose first argument is a string or a template without
substitutions.  Nothing of the other objects is lost, and of a request nothing but what its
literal leaves out.  So writing a tree gives back the JSON that it was read from, if the literals
stand there as they are written.
-/

namespace Relink

namespace Interchange

/-! ## Plain values -/

@[simp] theorem text?_eq_some_iff {json : Json} {value : Text} :
    text? json = some value ↔ json = .text value := by
  cases json <;> simp [text?]

@[simp] theorem items?_eq_some_iff {json : Json} {items : List Json} :
    items? json = some items ↔ json = .array items := by
  cases json <;> simp [items?]

/-! ## Literals -/

/-- How a literal stands in a tree: as a string, or as a template without substitutions. -/
inductive Spells : Json → Literal → Prop
  | string {members : List (Text × Json)} {span : Span} {value : Text} {raw : Option Text} :
      kind? (.object members) = some "StringLiteral".toList →
        (member? "span" members).bind span? = some span →
          member? "value" members = some (.text value) →
            optionalText? (member? "raw" members) = some raw →
              Spells (.object members) (.string span value raw)
  | template {members : List (Text × Json)} {span : Span} {pieces : List Json} {first : Quasi}
      {rest : List Quasi} :
      kind? (.object members) = some "TemplateLiteral".toList →
        (member? "span" members).bind span? = some span →
          member? "expressions" members = some (.array []) →
            member? "quasis" members = some (.array pieces) →
              pieces.mapM quasi? = some (first :: rest) →
                Spells (.object members) (.template span first rest)

theorem string?_eq_some_iff {json : Json} {slot : Literal} :
    string? json = some slot ↔
      Spells json slot ∧ ∃ span value raw, slot = .string span value raw := by
  constructor
  · intro found
    unfold string? at found
    split at found
    · rename_i members
      simp only [Option.ite_none_right_eq_some, Option.bind_eq_bind, Option.bind_eq_some_iff,
        text?_eq_some_iff, Option.some.injEq] at found
      obtain ⟨isString, place, isPlace, span, isSpan, _, isValue, value, rfl, raw, isRaw, rfl⟩ :=
        found
      exact ⟨.string isString (Option.bind_eq_some_iff.2 ⟨place, isPlace, isSpan⟩) isValue isRaw,
        span, value, raw, rfl⟩
    · cases found
  · rintro ⟨spells, span, value, raw, rfl⟩
    cases spells with
    | string isString isSpan isValue isRaw =>
        obtain ⟨place, isPlace, isSpan⟩ := Option.bind_eq_some_iff.1 isSpan
        simp [string?, isString, isPlace, isSpan, isValue, isRaw, text?]

theorem template?_eq_some_iff {json : Json} {slot : Literal} :
    template? json = some slot ↔
      Spells json slot ∧ ∃ span first rest, slot = .template span first rest := by
  constructor
  · intro found
    unfold template? at found
    split at found
    · rename_i members
      simp only [Option.ite_none_right_eq_some, Option.bind_eq_bind, Option.bind_eq_some_iff,
        items?_eq_some_iff] at found
      obtain ⟨isTemplate, place, isPlace, span, isSpan, _, hasExpressions, expressions, rfl, _,
        hasPieces, pieces, rfl, quasis, areQuasis, found⟩ := found
      split at found
      · rename_i first rest
        obtain rfl := Option.some.inj found
        exact ⟨.template isTemplate (Option.bind_eq_some_iff.2 ⟨place, isPlace, isSpan⟩)
          hasExpressions hasPieces areQuasis, span, first, rest, rfl⟩
      · cases found
    · cases found
  · rintro ⟨spells, span, first, rest, rfl⟩
    cases spells with
    | template isTemplate isSpan hasExpressions hasPieces areQuasis =>
        obtain ⟨place, isPlace, isSpan⟩ := Option.bind_eq_some_iff.1 isSpan
        simp [template?, isTemplate, isPlace, isSpan, hasExpressions, hasPieces, areQuasis, items?]

theorem literal_eq_some_iff {json : Json} {slot : Literal} :
    (string? json).or (template? json) = some slot ↔ Spells json slot := by
  rw [Option.or_eq_some_iff, string?_eq_some_iff, template?_eq_some_iff]
  constructor
  · rintro (⟨spells, -⟩ | ⟨-, spells, -⟩)
    · exact spells
    · exact spells
  · intro spells
    cases spells with
    | string isString isSpan isValue isRaw =>
        exact Or.inl ⟨.string isString isSpan isValue isRaw, _, _, _, rfl⟩
    | template isTemplate isSpan hasExpressions hasPieces areQuasis =>
        refine Or.inr ⟨?_, .template isTemplate isSpan hasExpressions hasPieces areQuasis, _, _, _,
          rfl⟩
        simp [string?, isTemplate]

/-! ## Requests -/

/-- The requests among the objects: declarations with a string for a source, and calls of
`import` with a literal for the first argument. -/
inductive Asks (members : List (Text × Json)) : Form → Literal → Prop
  | declaration {kind : String} {form : Form} {source : Json} {span : Span} {value : Text}
      {raw : Option Text} :
      (kind, form) ∈ declarationForms → kind? (.object members) = some kind.toList →
        member? "source" members = some source → Spells source (.string span value raw) →
          Asks members form (.string span value raw)
  | call {argument : List (Text × Json)} {others : List Json} {expression : Json}
      {spread : Option Span} {slot : Literal} :
      kind? (.object members) = some "CallExpression".toList →
        (member? "callee" members).bind kind? = some "Import".toList →
          member? "arguments" members = some (.array (.object argument :: others)) →
            member? "expression" argument = some expression → Spells expression slot →
              spread? (member? "spread" argument) = some spread →
                Asks members (.importCall spread) slot

variable {members : List (Text × Json)}

theorem argument?_eq_some_iff {json : Json} {request : Request} :
    argument? json = some request ↔
      ∃ argument expression spread slot, json = .object argument ∧
        member? "expression" argument = some expression ∧ Spells expression slot ∧
          spread? (member? "spread" argument) = some spread ∧
            request = ⟨.importCall spread, slot⟩ := by
  cases json with
  | object argument =>
      simp only [argument?, Option.bind_eq_bind, Option.bind_eq_some_iff, literal_eq_some_iff,
        Option.some.injEq, Json.object.injEq]
      constructor
      · rintro ⟨expression, present, slot, spells, spread, isSpread, rfl⟩
        exact ⟨argument, expression, spread, slot, rfl, present, spells, isSpread, rfl⟩
      · rintro ⟨_, expression, spread, slot, rfl, present, spells, isSpread, rfl⟩
        exact ⟨expression, present, slot, spells, spread, isSpread, rfl⟩
  | _ => simp [argument?]

/-- The kinds of declarations are told apart, and from calls. -/
theorem find?_declarationForms {kind : String} {form : Form}
    (isForm : (kind, form) ∈ declarationForms) :
    declarationForms.find? (·.1.toList = kind.toList) = some (kind, form) := by
  simp only [declarationForms, List.mem_cons, Prod.mk.injEq, List.not_mem_nil, or_false] at isForm
  rcases isForm with ⟨rfl, rfl⟩ | ⟨rfl, rfl⟩ | ⟨rfl, rfl⟩ <;> rfl

/-- An object is read as a request exactly if it asks for a module. -/
theorem request?_eq_some_iff {request : Request} :
    request? members = some request ↔ Asks members request.form request.slot := by
  constructor
  · intro found
    simp only [request?, Option.bind_eq_bind, Option.bind_eq_some_iff] at found
    obtain ⟨kind, isKind, found⟩ := found
    split at found
    · rename_i name form isForm
      simp only [Option.bind_eq_some_iff, string?_eq_some_iff, Option.some.injEq] at found
      obtain ⟨source, present, _, ⟨spells, span, value, raw, rfl⟩, rfl⟩ := found
      have named : name.toList = kind := by simpa using List.find?_some isForm
      exact .declaration (List.mem_of_find?_eq_some isForm) (by rw [isKind, named]) present spells
    · simp only [Option.ite_none_right_eq_some, Option.bind_eq_some_iff, items?_eq_some_iff,
        argument?_eq_some_iff] at found
      obtain ⟨⟨rfl, calls⟩, _, hasArguments, items, rfl, _, isFirst, argument, expression, spread,
        slot, rfl, present, spells, isSpread, rfl⟩ := found
      obtain ⟨others, rfl⟩ := List.head?_eq_some_iff.1 isFirst
      exact .call isKind (Option.bind_eq_some_iff.2 calls) hasArguments present spells isSpread
  · intro asks
    obtain ⟨form, slot⟩ := request
    cases asks with
    | declaration isForm isKind present spells =>
        have isString := string?_eq_some_iff.2 ⟨spells, _, _, _, rfl⟩
        simp only [request?, isKind, find?_declarationForms isForm, present, isString,
          Option.bind_eq_bind, Option.bind_some]
    | call isKind calls hasArguments present spells isSpread =>
        have isArgument := argument?_eq_some_iff.2 ⟨_, _, _, _, rfl, present, spells, isSpread, rfl⟩
        have notDeclared :
            declarationForms.find? (·.1.toList = "CallExpression".toList) = none := rfl
        simp only [request?, isKind, notDeclared, calls, hasArguments, items?, isArgument,
          Option.bind_eq_bind, Option.bind_some, List.head?_cons, and_self, if_true]

/-- The slot at the top of a tree that was read: what the value asks with, unless it is spread. -/
theorem slot?_ofJson_eq_some_iff {json : Json} {slot : Literal} :
    (ofJson json).slot? = some slot ↔
      ∃ members form, json = .object members ∧ Asks members form slot ∧
        form.specifier? slot = some slot.text := by
  rw [Tree.slot?_eq_some_iff]
  cases json with
  | object members =>
      rw [ofJson]
      constructor
      · rintro ⟨form, label, children, shape, specified⟩
        cases found : request? members with
        | none => simp [found] at shape
        | some request =>
            simp only [found, Tree.request.injEq] at shape
            obtain ⟨rfl, -, rfl, -⟩ := shape
            exact ⟨members, _, rfl, request?_eq_some_iff.1 found, specified⟩
      · rintro ⟨_, form, same, asks, specified⟩
        obtain rfl := Json.object.inj same
        have found : request? members = some ⟨form, slot⟩ := request?_eq_some_iff.2 asks
        rw [found]
        exact ⟨form, _, _, rfl, specified⟩
  | _ => simp [ofJson]

/-! ## Written literals -/

theorem span?_ofSpan (span : Span) : span? (ofSpan span) = some span := by
  have read (count : Nat) : count? (.number count 0) = some count := rfl
  simp [ofSpan, span?, member?, read]

theorem optionalText?_ofText? (text : Option Text) :
    optionalText? (some (ofText? text)) = some text := by
  cases text <;> rfl

theorem quasi?_ofQuasi (quasi : Quasi) : quasi? (ofQuasi quasi) = some quasi := by
  simp [ofQuasi, quasi?, member?, span?_ofSpan, optionalText?_ofText?, flag?, text?]

theorem mapM_quasi?_map_ofQuasi (quasis : List Quasi) :
    (quasis.map ofQuasi).mapM quasi? = some quasis := by
  induction quasis with
  | nil => rfl
  | cons quasi rest ih => simp [quasi?_ofQuasi, ih]

/-- A written literal stands for itself. -/
theorem spells_ofLiteral (slot : Literal) : Spells (ofLiteral slot) slot := by
  cases slot with
  | string span value raw =>
      exact .string rfl (span?_ofSpan span) rfl (optionalText?_ofText? raw)
  | template span first rest =>
      exact .template rfl (span?_ofSpan span) rfl rfl (mapM_quasi?_map_ofQuasi (first :: rest))

/-! ## Written trees -/

/-- A property that passes from the parts of a value to the value holds for all values. -/
theorem json_induction {motive : Json → Prop} (null : motive .null)
    (flag : ∀ value, motive (.flag value))
    (number : ∀ mantissa places, motive (.number mantissa places))
    (text : ∀ value, motive (.text value))
    (array : ∀ items, (∀ item ∈ items, motive item) → motive (.array items))
    (object : ∀ members, (∀ member ∈ members, motive member.2) → motive (.object members)) :
    ∀ json, motive json
  | .null => null
  | .flag value => flag value
  | .number mantissa places => number mantissa places
  | .text value => text value
  | .array items =>
      array items fun item _ => json_induction null flag number text array object item
  | .object members =>
      object members fun (_, value) _ =>
        json_induction null flag number text array object value
termination_by json => json
decreasing_by
  · rename_i member
    have smaller := List.sizeOf_lt_of_mem member
    rw [Json.array.sizeOf_spec]
    omega
  · rename_i member
    have smaller := List.sizeOf_lt_of_mem member
    rw [Prod.mk.sizeOf_spec] at smaller
    rw [Json.object.sizeOf_spec]
    omega

/-- A value stands somewhere in another one. -/
inductive Within : Json → Json → Prop
  | itself (json : Json) : Within json json
  | item {json item : Json} {items : List Json} :
      item ∈ items → Within json item → Within json (.array items)
  | member {json : Json} {member : Text × Json} {members : List (Text × Json)} :
      member ∈ members → Within json member.2 → Within json (.object members)

/-- The member with a slot, which holds the other arguments of a call too. -/
def ofSlot : Form → Literal → List Json → Json
  | .importCall spread, slot, others => .array (ofArgument spread slot :: others)
  | _, slot, _ => ofLiteral slot

/-- If the object is a request, the literal in its slot stands there as it is written. -/
def SlotIsWritten (members : List (Text × Json)) : Prop :=
  ∀ form slot, Asks members form slot →
    ∃ others, member? (slotKey form) members = some (ofSlot form slot others)

theorem ofItems_eq_map (items : List Json) : ofItems items = items.map ofJson := by
  induction items with
  | nil => rfl
  | cons item rest ih => rw [ofItems, ih, List.map_cons]

theorem ofMembers_eq_map (members : List (Text × Json)) :
    ofMembers members = members.map fun member => ofJson member.2 := by
  induction members with
  | nil => rfl
  | cons member rest ih => rw [ofMembers, ih, List.map_cons]

theorem toItems_eq_map (trees : List (Tree Label)) : toItems trees = trees.map toJson := by
  induction trees with
  | nil => rfl
  | cons tree rest ih => rw [toItems, ih, List.map_cons]

theorem member?_cons (key : String) (member : Text × Json) (rest : List (Text × Json)) :
    member? key (member :: rest) =
      if member.1 = key.toList then some member.2 else member? key rest := by
  by_cases isKey : member.1 = key.toList <;> simp [member?, isKey]

theorem member?_map (key : String) (function : Json → Json) (members : List (Text × Json)) :
    member? key (members.map fun member => (member.1, function member.2)) =
      (member? key members).map function := by
  rw [member?, member?, List.find?_map, Option.map_map, Option.map_map]
  rfl

/-- The members with another value under a key. -/
def setMember (key : String) (value : Json) : List (Text × Json) → List (Text × Json)
  | [] => []
  | member :: rest =>
      if member.1 = key.toList then (member.1, value) :: rest
      else member :: setMember key value rest

theorem setMember_eq_self {key : String} {value : Json} {members : List (Text × Json)}
    (present : member? key members = some value) : setMember key value members = members := by
  induction members with
  | nil => rfl
  | cons member rest ih =>
      rw [member?_cons] at present
      rw [setMember]
      split at present
      · rename_i isKey
        rw [if_pos isKey, ← Option.some.inj present]
      · rename_i notKey
        rw [if_neg notKey, ih present]

/-! ## Changes between reading and writing -/

/-- A value is read, the tree is changed, and written again. -/
def through (change : Tree Label → Tree Label) (json : Json) : Json :=
  toJson (change (ofJson json))

theorem zip_keys (change : Tree Label → Tree Label) (members : List (Text × Json)) :
    (members.map Prod.fst).zip (toItems ((ofMembers members).map change)) =
      members.map fun member => (member.1, through change member.2) := by
  rw [ofMembers_eq_map, toItems_eq_map, List.map_map, List.map_map, List.zip_map']
  rfl

section Change

variable {change : Tree Label → Tree Label}
  (passesNodes : ∀ label trees, change (.node label trees) = .node label (trees.map change))

include passesNodes

theorem through_array (items : List Json) :
    through change (.array items) = .array (items.map (through change)) := by
  rw [through, ofJson, passesNodes, toJson, ofItems_eq_map, toItems_eq_map, List.map_map,
    List.map_map]
  rfl

/-- An object that asks for nothing is changed in its members alone. -/
theorem through_object {members : List (Text × Json)} (asksNothing : request? members = none) :
    through change (.object members) =
      .object (members.map fun member => (member.1, through change member.2)) := by
  rw [through, ofJson]
  simp only [asksNothing]
  rw [passesNodes, toJson, zip_keys]

theorem through_text (value : Text) : through change (.text value) = .text value := by
  simp [through, ofJson, passesNodes, toJson]

theorem through_ofText? (text : Option Text) : through change (ofText? text) = ofText? text := by
  cases text <;> simp [through, ofText?, ofJson, passesNodes, toJson]

theorem through_ofSpan (span : Span) : through change (ofSpan span) = ofSpan span := by
  have count (value : Nat) : through change (.number value 0) = .number value 0 := by
    simp [through, ofJson, passesNodes, toJson]
  rw [ofSpan, through_object passesNodes rfl]
  simp only [List.map_cons, List.map_nil, count]

theorem through_ofQuasi (quasi : Quasi) : through change (ofQuasi quasi) = ofQuasi quasi := by
  have flag (value : Bool) : through change (.flag value) = .flag value := by
    simp [through, ofJson, passesNodes, toJson]
  rw [ofQuasi, through_object passesNodes rfl]
  simp only [List.map_cons, List.map_nil, flag, through_text passesNodes,
    through_ofSpan passesNodes, through_ofText? passesNodes]

/-- Nothing in a literal asks for a module. -/
theorem through_ofLiteral (slot : Literal) : through change (ofLiteral slot) = ofLiteral slot := by
  cases slot with
  | string span value raw =>
      rw [ofLiteral, through_object passesNodes rfl]
      simp only [List.map_cons, List.map_nil, through_text passesNodes,
        through_ofSpan passesNodes, through_ofText? passesNodes]
  | template span first rest =>
      have quasis : ((first :: rest).map ofQuasi).map (through change) =
          (first :: rest).map ofQuasi := by
        rw [List.map_map]
        exact List.map_congr_left fun quasi _ => through_ofQuasi passesNodes quasi
      rw [ofLiteral, through_object passesNodes rfl]
      simp only [List.map_cons, List.map_nil, through_text passesNodes,
        through_ofSpan passesNodes, through_array passesNodes] at quasis ⊢
      rw [quasis]

/-- What is left of a written slot, changed or not, makes the slot again. -/
theorem slotMember_withoutSlot {form : Form} {old : Literal} {others : List Json} (new : Literal)
    (trees : List (Tree Label)) :
    slotMember form new
        (toItems ((withoutSlot form (ofJson (ofSlot form old others)) ++ trees).map change)) =
      (ofSlot form new (others.map (through change)), toItems (trees.map change)) := by
  cases form with
  | importCall spread =>
      change slotMember (.importCall spread) new
        (toItems ((.node .array (ofItems others) :: trees).map _)) = _
      rw [List.map_cons, passesNodes, toItems, toJson, ofItems_eq_map, toItems_eq_map,
        List.map_map, List.map_map]
      rfl
  | _ => rfl

/-- The members of a request are made again of what is left of them, changed or not, and of the
slot. -/
theorem requestMembers_requestChildren {form : Form} {old : Literal} {others : List Json}
    {members : List (Text × Json)}
    (written : member? (slotKey form) members = some (ofSlot form old others)) (new : Literal) :
    requestMembers form new (members.map Prod.fst)
        (toItems ((requestChildren form (members.map Prod.fst) (ofMembers members)).map change)) =
      setMember (slotKey form) (ofSlot form new (others.map (through change)))
        (members.map fun member => (member.1, through change member.2)) := by
  induction members with
  | nil => rfl
  | cons member rest ih =>
      obtain ⟨key, value⟩ := member
      rw [member?_cons] at written
      rw [List.map_cons, List.map_cons, ofMembers, requestChildren, setMember]
      by_cases isSlot : key = (slotKey form).toList
      · rw [if_pos isSlot, Option.some.injEq] at written
        simp only at written
        rw [if_pos isSlot, if_pos isSlot, requestMembers.eq_def, written]
        simp only [if_pos isSlot, slotMember_withoutSlot passesNodes, zip_keys]
      · rw [if_neg isSlot] at written
        rw [if_neg isSlot, if_neg isSlot, List.map_cons, toItems, requestMembers.eq_def]
        simp only [if_neg isSlot, ih written, through]

theorem through_ofSlot (form : Form) (slot : Literal) (others : List Json) :
    through change (ofSlot form slot others) = ofSlot form slot (others.map (through change)) := by
  cases form with
  | importCall spread =>
      have span : through change (spread.elim .null ofSpan) = spread.elim .null ofSpan := by
        cases spread with
        | none => simp [through, ofJson, passesNodes, toJson]
        | some span => exact through_ofSpan passesNodes span
      have argument : through change (ofArgument spread slot) = ofArgument spread slot := by
        rw [ofArgument, through_object passesNodes rfl]
        simp only [List.map_cons, List.map_nil, span, through_ofLiteral passesNodes]
      rw [ofSlot, through_array passesNodes, List.map_cons, argument]
      rfl
  | _ => exact through_ofLiteral passesNodes slot

/-- With its own literal in the slot a request is changed in its members alone. -/
theorem requestMembers_self {form : Form} {slot : Literal} {others : List Json}
    {members : List (Text × Json)}
    (written : member? (slotKey form) members = some (ofSlot form slot others)) :
    requestMembers form slot (members.map Prod.fst)
        (toItems ((requestChildren form (members.map Prod.fst) (ofMembers members)).map change)) =
      members.map fun member => (member.1, through change member.2) := by
  rw [requestMembers_requestChildren passesNodes written, ← through_ofSlot passesNodes]
  apply setMember_eq_self
  rw [member?_map, written, Option.map_some]

end Change

theorem passesNodes_id (label : Label) (trees : List (Tree Label)) :
    id (Tree.node label trees) = .node label (trees.map id) := by
  rw [List.map_id, id_eq]

theorem map_restored {members : List (Text × Json)}
    (restored : ∀ member ∈ members, toJson (ofJson member.2) = member.2) :
    (members.map fun member => (member.1, through id member.2)) = members := by
  have same : ∀ member ∈ members, (member.1, through id member.2) = member :=
    fun member isMember => Prod.ext rfl (restored member isMember)
  rw [List.map_congr_left same, List.map_id']

/-- Writing a tree that was read gives the JSON back, if its slots stand there as they are
written. -/
theorem toJson_ofJson {json : Json}
    (written : ∀ members, Within (.object members) json → SlotIsWritten members) :
    toJson (ofJson json) = json := by
  change through id json = json
  induction json using json_induction with
  | null => rfl
  | flag value => rfl
  | number mantissa places => rfl
  | text value => rfl
  | array items ih =>
      have restored : ∀ item ∈ items, through id item = item := fun item isItem =>
        ih item isItem fun members within => written members (.item isItem within)
      rw [through_array passesNodes_id, List.map_congr_left restored, List.map_id']
  | object members ih =>
      have whole : (members.map fun member => (member.1, through id member.2)) = members :=
        map_restored fun member isMember => ih member isMember fun inner within =>
          written inner (.member isMember within)
      cases found : request? members with
      | none => rw [through_object passesNodes_id found, whole]
      | some request =>
          obtain ⟨others, slotWritten⟩ := written members (.itself _) request.form request.slot
            (request?_eq_some_iff.1 found)
          have made := requestMembers_self passesNodes_id slotWritten
          rw [List.map_id, whole] at made
          rw [through, ofJson]
          simp only [found, id_eq, toJson, made]

end Interchange

end Relink
