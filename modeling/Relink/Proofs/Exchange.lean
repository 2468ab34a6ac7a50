import Relink.Proofs.Interchange
import Relink.Proofs.Rewrite

/-!
# Rewriting exchanged trees

A tree that is exchanged as JSON is read, rewritten and written again.  Of an object that asks
for a module by a specifier that is to be replaced, only the literal in the slot becomes another
one.  Of any other value the parts are exchanged, and nothing else.
-/

namespace Relink

namespace Interchange

/-- A tree with the requests of a file rewritten. -/
def rewritten (compilation : Compilation) (file : Path) (tree : Tree Label) : Tree Label :=
  (compilation.rewrite file tree).value

/-- A tree in JSON with the requests of a file rewritten. -/
def exchange (compilation : Compilation) (file : Path) (json : Json) : Json :=
  through (rewritten compilation file) json

variable {compilation : Compilation} {file : Path} {members : List (Text × Json)} {form : Form}
  {slot : Literal} {others : List Json}

theorem rewritten_node (label : Label) (trees : List (Tree Label)) :
    rewritten compilation file (.node label trees) =
      .node label (trees.map (rewritten compilation file)) :=
  Compilation.value_rewrite_node label trees

theorem exchange_array (items : List Json) :
    exchange compilation file (.array items) = .array (items.map (exchange compilation file)) :=
  through_array rewritten_node items

theorem ofSlot_congr {changed : List Json}
    (same : ofSlot form slot changed = ofSlot form slot others) (new : Literal) :
    ofSlot form new changed = ofSlot form new others := by
  cases form with
  | importCall spread =>
      have arguments := List.cons.inj (Json.array.inj same)
      exact congrArg (fun rest => Json.array (ofArgument spread new :: rest)) arguments.2
  | _ => rfl

/-- An object with another literal in its slot, if nothing else is lost between reading and
writing. -/
theorem requestMembers_of_restored
    (written : member? (slotKey form) members = some (ofSlot form slot others))
    (restored : ∀ member ∈ members, toJson (ofJson member.2) = member.2) (new : Literal) :
    requestMembers form new (members.map Prod.fst)
        (toItems (requestChildren form (members.map Prod.fst) (ofMembers members))) =
      setMember (slotKey form) (ofSlot form new others) members := by
  have whole : (members.map fun member => (member.1, through id member.2)) = members :=
    map_restored restored
  have slotRestored : ofSlot form slot (others.map (through id)) = ofSlot form slot others := by
    obtain ⟨member, isSlot, value⟩ := Option.map_eq_some_iff.1 written
    rw [← through_ofSlot passesNodes_id, ← value]
    exact restored member (List.mem_of_find?_eq_some isSlot)
  have made := requestMembers_requestChildren passesNodes_id written new
  rwa [List.map_id, whole, ofSlot_congr slotRestored] at made

/-- How an object is exchanged.  If it asks for a module by a specifier that is to be replaced,
the literal in its slot is another one, and everything else is as it was.  Otherwise its members
are exchanged. -/
theorem exchange_object
    (written : ∀ inner, Within (.object inner) (.object members) → SlotIsWritten inner) :
    (∀ form slot specifier, Asks members form slot → form.specifier? slot = some slot.text →
        compilation.Replaces file specifier slot.text →
          ∃ others, member? (slotKey form) members = some (ofSlot form slot others) ∧
            exchange compilation file (.object members) =
              .object (setMember (slotKey form)
                (ofSlot form (.string slot.span specifier none) others) members)) ∧
      ((∀ form slot specifier, Asks members form slot → form.specifier? slot = some slot.text →
          ¬ compilation.Replaces file specifier slot.text) →
        exchange compilation file (.object members) =
          .object (members.map fun member => (member.1, exchange compilation file member.2))) := by
  constructor
  · intro form slot specifier asks specified replaces
    have found : request? members = some ⟨form, slot⟩ := request?_eq_some_iff.2 asks
    obtain ⟨others, slotWritten⟩ := written members (.itself _) form slot asks
    have restored : ∀ member ∈ members, toJson (ofJson member.2) = member.2 :=
      fun member isMember => toJson_ofJson fun inner within =>
        written inner (.member isMember within)
    have replaced : (compilation.newSlot? file form slot).value =
        some (.string slot.span specifier none) :=
      Compilation.value_newSlot?_eq_some_iff.2 ⟨specified, specifier, replaces, rfl⟩
    refine ⟨others, slotWritten, ?_⟩
    rw [exchange, through, ofJson]
    simp only [found]
    rw [rewritten, Compilation.value_rewrite_of_replaced replaced, toJson]
    simp only [requestMembers_of_restored slotWritten restored]
  · intro stays
    cases found : request? members with
    | none => exact through_object rewritten_node found
    | some request =>
        obtain ⟨form, slot⟩ := request
        have asks : Asks members form slot := request?_eq_some_iff.1 found
        obtain ⟨others, slotWritten⟩ := written members (.itself _) form slot asks
        have kept : (compilation.newSlot? file form slot).value = none := by
          rw [Option.eq_none_iff_forall_ne_some]
          intro new isNew
          obtain ⟨specified, specifier, replaces, -⟩ :=
            Compilation.value_newSlot?_eq_some_iff.1 isNew
          exact stays form slot specifier asks specified replaces
        rw [exchange, through, ofJson]
        simp only [found]
        rw [rewritten, Compilation.value_rewrite_of_kept kept, toJson]
        exact congrArg Json.object (requestMembers_self rewritten_node slotWritten)

end Interchange

end Relink
