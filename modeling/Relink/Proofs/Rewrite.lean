import Relink.Proofs.Slots
import Relink.Rewrite

/-!
# What a rewritten tree looks like

Exactly the requests with a relative specifier that leads to a file of another spelling are
replaced, unless a request above them is.  Apart from its slots a tree stays as it was.
-/

namespace Relink

namespace Compilation

open Relink.Tree

variable {α : Type} {compilation : Compilation} {file : Path}

/-! ## Replacements -/

/-- In the file `file` the relative specifier `specifier` leads to a file whose own specifier
is another one, `written`. -/
structure Replaces (compilation : Compilation) (file : Path) (written specifier : Text) :
    Prop where
  relative : Specifier.isRelative specifier = true
  resolved : ∃ found,
    (Resolution.resolve compilation.host compilation.options file specifier).value =
        some found ∧
      Specifier.toFile file found.path = written
  changed : written ≠ specifier

theorem value_replacement?_eq_some_iff {specifier written : Text} :
    (compilation.replacement? file specifier).value = some written ↔
      compilation.Replaces file written specifier := by
  unfold replacement?
  cases relative : Specifier.isRelative specifier with
  | false =>
      simp only [Bool.false_eq_true, if_false, Traced.value_pure, reduceCtorEq, false_iff]
      intro replaces
      simp [replaces.relative] at relative
  | true =>
      simp only [if_true, Traced.value_bind]
      constructor
      · intro replaced
        split at replaced
        · cases replaced
        · rename_i found resolved
          split at replaced
          · cases replaced
          · rename_i changed
            cases replaced
            exact ⟨relative, ⟨found, resolved, rfl⟩, changed⟩
      · rintro ⟨-, ⟨found, resolved, rfl⟩, changed⟩
        simp [resolved, changed]

theorem value_newSlot?_eq_some_iff {form : Form} {slot new : Literal} :
    (compilation.newSlot? file form slot).value = some new ↔
      form.specifier? slot = some slot.text ∧
        ∃ written, compilation.Replaces file written slot.text ∧
          new = .string slot.span written none := by
  unfold newSlot?
  cases specified : form.specifier? slot with
  | none => simp
  | some specifier =>
      obtain rfl := Form.specifier?_eq_text specified
      simp only [Traced.value_bind, Traced.value_pure, Option.map_eq_some_iff,
        value_replacement?_eq_some_iff, true_and]
      exact exists_congr fun _ => and_congr_right fun _ => eq_comm

theorem Replaces.slot_ne {slot : Literal} {written : Text}
    (replaces : compilation.Replaces file written slot.text) :
    Literal.string slot.span written none ≠ slot := by
  intro same
  exact replaces.changed (congrArg Literal.text same)

/-- A new literal has the span of the old one, and is spread exactly if the old one is. -/
theorem erase_newSlot? {form : Form} {slot new : Literal}
    (replaced : (compilation.newSlot? file form slot).value = some new) :
    form.erase new = form.erase slot := by
  obtain ⟨specified, written, -, rfl⟩ := value_newSlot?_eq_some_iff.1 replaced
  have alsoSpecified := Form.specifier?_of_isSome specified (.string slot.span written none)
  rw [Form.erase_of_specifier? specified, Form.erase_of_specifier? alsoSpecified]
  rfl

/-! ## Rewritten trees -/

theorem value_rewriteList (trees : List (Tree α)) :
    (compilation.rewriteList file trees).value =
      trees.map fun tree => (compilation.rewrite file tree).value := by
  induction trees with
  | nil => rfl
  | cons tree rest ih => simp [rewriteList, ih]

theorem value_rewrite_node (label : α) (children : List (Tree α)) :
    (compilation.rewrite file (.node label children)).value =
      .node label (children.map fun tree => (compilation.rewrite file tree).value) := by
  simp [rewrite, value_rewriteList]

theorem value_rewrite_of_replaced {form : Form} {slot new : Literal}
    (replaced : (compilation.newSlot? file form slot).value = some new) (label : α)
    (children : List (Tree α)) :
    (compilation.rewrite file (.request form label slot children)).value =
      .request form label new children := by
  simp [rewrite, replaced]

theorem value_rewrite_of_kept {form : Form} {slot : Literal}
    (kept : (compilation.newSlot? file form slot).value = none) (label : α)
    (children : List (Tree α)) :
    (compilation.rewrite file (.request form label slot children)).value =
      .request form label slot
        (children.map fun tree => (compilation.rewrite file tree).value) := by
  simp [rewrite, kept, value_rewriteList]

/-- Rewriting either replaces the slot at the top of a tree and leaves all below as it was,
or it leaves the top, whose slot is not to be replaced, and rewrites all below. -/
theorem rewrite_cases (compilation : Compilation) (file : Path) (tree : Tree α) :
    (∃ slot written, tree.slot? = some slot ∧ compilation.Replaces file written slot.text ∧
        (compilation.rewrite file tree).value.slot? = some (.string slot.span written none) ∧
        (compilation.rewrite file tree).value.children = tree.children) ∨
      ((∀ slot, tree.slot? = some slot →
          ∀ written, ¬ compilation.Replaces file written slot.text) ∧
        (compilation.rewrite file tree).value.slot? = tree.slot? ∧
        (compilation.rewrite file tree).value.children =
          tree.children.map fun child => (compilation.rewrite file child).value) := by
  cases tree with
  | node label children =>
      right
      rw [value_rewrite_node]
      exact ⟨by simp, rfl, rfl⟩
  | request form label slot children =>
      cases outcome : (compilation.newSlot? file form slot).value with
      | some new =>
          left
          rw [value_rewrite_of_replaced outcome]
          obtain ⟨specified, written, replaces, rfl⟩ := value_newSlot?_eq_some_iff.1 outcome
          refine ⟨slot, written, by simp [slot?_request, specified], replaces, ?_, rfl⟩
          simp [slot?_request, Form.specifier?_of_isSome specified]
      | none =>
          right
          rw [value_rewrite_of_kept outcome]
          refine ⟨?_, by rw [slot?_request, slot?_request], rfl⟩
          intro old present written replaces
          obtain ⟨_, _, _, shape, specified⟩ := slot?_eq_some_iff.1 present
          cases shape
          have replaced := value_newSlot?_eq_some_iff.2 ⟨specified, written, replaces, rfl⟩
          rw [outcome] at replaced
          cases replaced

/-! ## Main results -/

/-- Rewriting replaces a slot exactly if its specifier leads to a file of another spelling
and no request above was replaced.  The new literal is the specifier of this file. -/
theorem slotAt?_rewrite {tree : Tree α} {place : List Nat} {slot : Literal}
    (present : tree.slotAt? place = some slot) :
    ∃ new, (compilation.rewrite file tree).value.slotAt? place = some new ∧
      (new ≠ slot ↔
        (∃ written, compilation.Replaces file written slot.text) ∧
          Reached tree (compilation.rewrite file tree).value place) ∧
      (new ≠ slot → ∃ written, compilation.Replaces file written slot.text ∧
        new = .string slot.span written none) := by
  induction place generalizing tree with
  | nil =>
      rw [slotAt?_nil] at present
      have reached := reached_nil tree (compilation.rewrite file tree).value
      rcases rewrite_cases compilation file tree with
        ⟨old, written, top, replaces, topAfter, -⟩ | ⟨stays, topAfter, -⟩
      · obtain rfl : old = slot := Option.some.inj (top.symm.trans present)
        have changed := replaces.slot_ne
        exact ⟨_, topAfter, iff_of_true changed ⟨⟨written, replaces⟩, reached⟩,
          fun _ => ⟨written, replaces, rfl⟩⟩
      · refine ⟨slot, by rw [slotAt?_nil, topAfter, present], ?_, absurd rfl⟩
        refine iff_of_false (absurd rfl) ?_
        rintro ⟨⟨written, replaces⟩, -⟩
        exact stays slot present written replaces
  | cons index rest ih =>
      obtain ⟨child, below, presentBelow⟩ := exists_child_of_slotAt?_cons present
      rcases rewrite_cases compilation file tree with
        ⟨old, written, top, replaces, topAfter, children⟩ | ⟨-, topAfter, children⟩
      · -- The part below a replaced request is left alone, and is not reached.
        have belowAfter : (compilation.rewrite file tree).value.children[index]? =
            some child := by
          rw [children, below]
        have replaced : ReplacedAt tree (compilation.rewrite file tree).value [] :=
          ⟨old, _, top, topAfter, replaces.slot_ne⟩
        refine ⟨slot, by rw [slotAt?_cons belowAfter, presentBelow], ?_, absurd rfl⟩
        refine iff_of_false (absurd rfl) ?_
        rintro ⟨-, reached⟩
        exact ((reached_cons_iff below belowAfter rest).1 reached).1 replaced
      · have belowAfter : (compilation.rewrite file tree).value.children[index]? =
            some (compilation.rewrite file child).value := by
          rw [children, List.getElem?_map, below, Option.map_some]
        have kept : ¬ ReplacedAt tree (compilation.rewrite file tree).value [] := by
          rintro ⟨before, after, isBefore, isAfter, changed⟩
          rw [slotAt?_nil, topAfter] at isAfter
          exact changed (Option.some.inj (isAfter.symm.trans isBefore))
        rw [slotAt?_cons belowAfter, reached_cons_iff below belowAfter rest, and_iff_right kept]
        exact ih presentBelow

/-- A compilation with one source file. -/
def oneFile : Compilation :=
  ⟨.default, (Files.ofList [(.ofString "/src/lib.ts", none)]).host⟩

/-- An import call with another one among its further arguments. -/
def nestedCalls : Tree Unit :=
  .request (.importCall none) () (.string ⟨7, 14⟩ "./lib".toList none)
    [.node () [.request (.importCall none) () (.string ⟨23, 30⟩ "./lib".toList none) []]]

theorem slotAt?_rewrite_nestedCalls :
    ∃ new,
      (oneFile.rewrite (.ofString "/src/app.ts") nestedCalls).value.slotAt? [0, 0] = some new ∧
      new = .string ⟨23, 30⟩ "./lib".toList none := by
  have present : nestedCalls.slotAt? [0, 0] = some (.string ⟨23, 30⟩ "./lib".toList none) := rfl
  have replaced :
      ReplacedAt nestedCalls (oneFile.rewrite (.ofString "/src/app.ts") nestedCalls).value [] :=
    ⟨.string ⟨7, 14⟩ "./lib".toList none, .string ⟨7, 14⟩ "./lib.mjs".toList none, by decide,
      by decide, by decide⟩
  obtain ⟨new, isNew, replacedIff, -⟩ :=
    @slotAt?_rewrite Unit oneFile (.ofString "/src/app.ts") nestedCalls _ _ present
  refine ⟨new, isNew, ?_⟩
  by_cases same : new = .string ⟨23, 30⟩ "./lib".toList none
  · exact same
  · exact ((replacedIff.1 same).2 [] List.nil_prefix (by decide) replaced).elim

/-- Rewriting changes nothing of a tree but its slots, and not the spans of these. -/
theorem erase_rewrite (compilation : Compilation) (file : Path) (tree : Tree α) :
    (compilation.rewrite file tree).value.erase = tree.erase := by
  have below (children : List (Tree α))
      (ih : ∀ child ∈ children, (compilation.rewrite file child).value.erase = child.erase) :
      eraseList (children.map fun tree => (compilation.rewrite file tree).value) =
        eraseList children := by
    rw [eraseList_eq_map, eraseList_eq_map, List.map_map]
    exact List.map_congr_left ih
  induction tree with
  | node label children ih =>
      rw [value_rewrite_node, erase, erase, below children ih]
  | request form label slot children ih =>
      cases outcome : (compilation.newSlot? file form slot).value with
      | some new =>
          rw [value_rewrite_of_replaced outcome, erase, erase, erase_newSlot? outcome]
      | none =>
          rw [value_rewrite_of_kept outcome, erase, erase, below children ih]

end Compilation

end Relink
