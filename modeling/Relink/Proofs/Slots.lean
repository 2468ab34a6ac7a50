import Relink.Tree

/-!
# Slots of program trees

A place tells which child to go to at each level of a tree.  Two trees are compared by the
slots at their places: a request is replaced where the slot of the second tree differs from
the slot of the first one.  What two trees have in common apart from their slots is seen
when the slots are erased.
-/

namespace Relink

namespace Form

theorem specifier?_eq_text {form : Form} {slot : Literal} {specifier : Text}
    (specified : form.specifier? slot = some specifier) : slot.text = specifier := by
  unfold specifier? at specified
  split at specified
  · cases specified
  · exact Option.some.inj specified

/-- Whether a slot is spread does not depend on what stands in it. -/
theorem specifier?_of_isSome {form : Form} {slot : Literal} {specifier : Text}
    (specified : form.specifier? slot = some specifier) (other : Literal) :
    form.specifier? other = some other.text := by
  unfold specifier? at specified ⊢
  split at specified
  · cases specified
  · rfl

/-- A slot of which only the span is left.  One that is spread stays. -/
def erase : Form → Literal → Literal
  | importCall (some _), slot => slot
  | _, slot => .string slot.span [] none

theorem erase_of_specifier? {form : Form} {slot : Literal} {specifier : Text}
    (specified : form.specifier? slot = some specifier) :
    form.erase slot = .string slot.span [] none := by
  unfold specifier? at specified
  split at specified
  · cases specified
  · rename_i slot notSpread
    unfold erase
    split
    · exact (notSpread _ rfl).elim
    · rfl

end Form

namespace Tree

variable {α : Type}

/-- A property that passes from the children of a tree to the tree holds for all trees. -/
@[induction_eliminator]
theorem induction {motive : Tree α → Prop}
    (node : ∀ label children, (∀ child ∈ children, motive child) →
      motive (.node label children))
    (request : ∀ form label slot children, (∀ child ∈ children, motive child) →
      motive (.request form label slot children)) :
    ∀ tree, motive tree
  | .node label children =>
      node label children fun child _ => induction node request child
  | .request form label slot children =>
      request form label slot children fun child _ => induction node request child

/-! ## Slots -/

/-- The literal that a request at the top of a tree asks with, none if it is spread. -/
def slot? : Tree α → Option Literal
  | node _ _ => none
  | request (.importCall (some _)) _ _ _ => none
  | request _ _ slot _ => some slot

@[simp] theorem slot?_node (label : α) (children : List (Tree α)) :
    (node label children).slot? = none := rfl

theorem slot?_request (form : Form) (label : α) (slot : Literal) (children : List (Tree α)) :
    (request form label slot children).slot? = (form.specifier? slot).map fun _ => slot := by
  cases form with
  | importCall spread => cases spread <;> rfl
  | _ => rfl

theorem slot?_eq_some_iff {tree : Tree α} {slot : Literal} :
    tree.slot? = some slot ↔
      ∃ form label children, tree = request form label slot children ∧
        form.specifier? slot = some slot.text := by
  cases tree with
  | node label children => simp
  | request form label old children =>
      constructor
      · intro present
        simp only [slot?_request, Option.map_eq_some_iff] at present
        obtain ⟨specifier, specified, rfl⟩ := present
        exact ⟨form, label, children, rfl, Form.specifier?_of_isSome specified old⟩
      · rintro ⟨_, _, _, shape, specified⟩
        cases shape
        simp [slot?_request, specified]

/-- The part of a tree at a place. -/
def at? : Tree α → List Nat → Option (Tree α)
  | tree, [] => some tree
  | tree, index :: rest =>
      match tree.children[index]? with
      | some child => child.at? rest
      | none => none

/-- The slot of the request at a place. -/
def slotAt? (tree : Tree α) (place : List Nat) : Option Literal :=
  (tree.at? place).bind slot?

@[simp] theorem slotAt?_nil (tree : Tree α) : tree.slotAt? [] = tree.slot? := rfl

theorem slotAt?_cons {tree child : Tree α} {index : Nat}
    (below : tree.children[index]? = some child) (rest : List Nat) :
    tree.slotAt? (index :: rest) = child.slotAt? rest := by
  simp only [slotAt?, at?, below]

theorem exists_child_of_slotAt?_cons {tree : Tree α} {index : Nat} {rest : List Nat}
    {slot : Literal} (present : tree.slotAt? (index :: rest) = some slot) :
    ∃ child, tree.children[index]? = some child ∧ child.slotAt? rest = some slot := by
  cases below : tree.children[index]? with
  | none => simp [slotAt?, at?, below] at present
  | some child => exact ⟨child, rfl, by rwa [slotAt?_cons below] at present⟩

/-! ## Replaced slots -/

/-- The slot at a place is not the same in two trees. -/
def ReplacedAt (before after : Tree α) (place : List Nat) : Prop :=
  ∃ old new, before.slotAt? place = some old ∧ after.slotAt? place = some new ∧ new ≠ old

/-- No slot above a place was replaced. -/
def Reached (before after : Tree α) (place : List Nat) : Prop :=
  ∀ above, above <+: place → above ≠ place → ¬ ReplacedAt before after above

theorem replacedAt_cons {before after child changed : Tree α} {index : Nat}
    (below : before.children[index]? = some child)
    (belowAfter : after.children[index]? = some changed) (rest : List Nat) :
    ReplacedAt before after (index :: rest) ↔ ReplacedAt child changed rest := by
  simp only [ReplacedAt, slotAt?_cons below, slotAt?_cons belowAfter]

theorem reached_nil (before after : Tree α) : Reached before after [] := by
  intro above isPrefix isAbove
  exact (isAbove (List.prefix_nil.1 isPrefix)).elim

/-- A place below a child is reached if the top was not replaced and the place is reached
from the child. -/
theorem reached_cons_iff {before after child changed : Tree α} {index : Nat}
    (below : before.children[index]? = some child)
    (belowAfter : after.children[index]? = some changed) (rest : List Nat) :
    Reached before after (index :: rest) ↔
      ¬ ReplacedAt before after [] ∧ Reached child changed rest := by
  constructor
  · intro reached
    refine ⟨reached [] List.nil_prefix (List.cons_ne_nil _ _).symm, ?_⟩
    intro above isPrefix isAbove
    rw [← replacedAt_cons below belowAfter]
    exact reached (index :: above) (List.cons_prefix_cons.2 ⟨rfl, isPrefix⟩)
      (by simpa using isAbove)
  · rintro ⟨top, reached⟩ above isPrefix isAbove
    cases above with
    | nil => exact top
    | cons first others =>
        obtain ⟨rfl, restIsPrefix⟩ := List.cons_prefix_cons.1 isPrefix
        rw [replacedAt_cons below belowAfter]
        exact reached others restIsPrefix (by simpa using isAbove)

/-! ## Erased slots -/

mutual

/-- The tree with all its slots erased. -/
def erase : Tree α → Tree α
  | node label children => node label (eraseList children)
  | request form label slot children =>
      request form label (form.erase slot) (eraseList children)

/-- Trees in a row with all their slots erased. -/
def eraseList : List (Tree α) → List (Tree α)
  | [] => []
  | tree :: rest => erase tree :: eraseList rest

end

theorem eraseList_eq_map (trees : List (Tree α)) : eraseList trees = trees.map erase := by
  induction trees with
  | nil => rfl
  | cons tree rest ih => rw [eraseList, ih, List.map_cons]

end Tree

end Relink
