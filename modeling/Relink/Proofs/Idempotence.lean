import Relink.Proofs.Resolution.Stability
import Relink.Proofs.Rewrite

/-!
# Rewriting twice

A tree stays as it is exactly if none of its slots is to be replaced.  Hence rewriting a tree
again changes nothing exactly if no new specifier is to be replaced once more, and no slot
below a replaced one is to be replaced, where rewriting did not look.  A new specifier is not
to be replaced again if it leads back to its file, as it does unless there is an `.mts` or a
`.d.mts` beside a `.ts`.
-/

namespace Relink

namespace Compilation

open Relink.Tree

variable {α : Type} {compilation : Compilation} {file : Path}

/-! ## Settled trees -/

/-- A slot is not to be replaced. -/
def Final (compilation : Compilation) (file : Path) (slot : Literal) : Prop :=
  ∀ written, ¬ compilation.Replaces file written slot.text

/-- No slot of a tree is to be replaced. -/
def Settled (compilation : Compilation) (file : Path) (tree : Tree α) : Prop :=
  ∀ place slot, tree.slotAt? place = some slot → compilation.Final file slot

theorem slotAt?_cons_eq_bind (tree : Tree α) (index : Nat) (rest : List Nat) :
    tree.slotAt? (index :: rest) = tree.children[index]?.bind fun child => child.slotAt? rest := by
  cases below : tree.children[index]? with
  | none => simp [slotAt?, at?, below]
  | some child => rw [slotAt?_cons below, Option.bind_some]

theorem settled_iff {tree : Tree α} :
    compilation.Settled file tree ↔
      (∀ slot, tree.slot? = some slot → compilation.Final file slot) ∧
        ∀ child ∈ tree.children, compilation.Settled file child := by
  constructor
  · intro settled
    refine ⟨fun slot top => settled [] slot top, fun child member place slot present => ?_⟩
    obtain ⟨index, below⟩ := List.mem_iff_getElem?.1 member
    exact settled (index :: place) slot (by rw [slotAt?_cons below, present])
  · rintro ⟨top, children⟩ place slot present
    cases place with
    | nil => exact top slot present
    | cons index rest =>
        obtain ⟨child, below, presentBelow⟩ := exists_child_of_slotAt?_cons present
        exact children child (List.mem_of_getElem? below) rest slot presentBelow

/-- A slot is kept exactly if it is spread or not to be replaced. -/
theorem value_newSlot?_eq_none_iff {form : Form} {slot : Literal} (label : α)
    (children : List (Tree α)) :
    (compilation.newSlot? file form slot).value = none ↔
      ∀ old, (Tree.request form label slot children).slot? = some old →
        compilation.Final file old := by
  constructor
  · intro kept old present written replaces
    obtain ⟨_, _, _, shape, specified⟩ := slot?_eq_some_iff.1 present
    cases shape
    have replaced := value_newSlot?_eq_some_iff.2 ⟨specified, written, replaces, rfl⟩
    rw [kept] at replaced
    cases replaced
  · intro final
    rw [Option.eq_none_iff_forall_ne_some]
    intro new replaced
    obtain ⟨specified, written, replaces, -⟩ := value_newSlot?_eq_some_iff.1 replaced
    exact final slot (by simp [slot?_request, specified]) written replaces

/-- Rewriting leaves a tree as it is exactly if none of its slots is to be replaced. -/
theorem value_rewrite_eq_self_iff {tree : Tree α} :
    (compilation.rewrite file tree).value = tree ↔ compilation.Settled file tree := by
  have below (children : List (Tree α))
      (ih : ∀ child ∈ children,
        (compilation.rewrite file child).value = child ↔ compilation.Settled file child) :
      (children.map fun child => (compilation.rewrite file child).value) = children ↔
        ∀ child ∈ children, compilation.Settled file child := by
    conv_lhs => rhs; rw [← List.map_id children]
    rw [List.map_inj_left]
    exact forall₂_congr ih
  induction tree with
  | node label children ih =>
      rw [value_rewrite_node, settled_iff]
      simp only [node.injEq, true_and, slot?_node, reduceCtorEq, false_implies, implies_true]
      exact below children ih
  | request form label slot children ih =>
      rw [settled_iff, ← value_newSlot?_eq_none_iff]
      cases outcome : (compilation.newSlot? file form slot).value with
      | some new =>
          obtain ⟨-, written, replaces, rfl⟩ := value_newSlot?_eq_some_iff.1 outcome
          rw [value_rewrite_of_replaced outcome]
          simp [replaces.slot_ne]
      | none =>
          rw [value_rewrite_of_kept outcome]
          simp only [request.injEq, true_and]
          exact below children ih

/-! ## Final changes -/

/-- Wherever a tree gets another slot, this slot is not to be replaced, and neither is any
slot below. -/
def ChangesFinally (compilation : Compilation) (file : Path) (before after : Tree α) : Prop :=
  ∀ place old new, before.slotAt? place = some old → after.slotAt? place = some new →
    new ≠ old → compilation.Final file new ∧
      ∀ below slot, below ≠ [] → before.slotAt? (place ++ below) = some slot →
        compilation.Final file slot

/-- Where only the slot at the top is another one, changes are final if the result is
settled. -/
theorem changesFinally_iff_settled {before after : Tree α} {old new : Literal}
    (top : before.slot? = some old) (topAfter : after.slot? = some new) (changed : new ≠ old)
    (children : after.children = before.children) :
    compilation.ChangesFinally file before after ↔ compilation.Settled file after := by
  have below (index : Nat) (rest : List Nat) :
      after.slotAt? (index :: rest) = before.slotAt? (index :: rest) := by
    rw [slotAt?_cons_eq_bind, slotAt?_cons_eq_bind, children]
  constructor
  · intro final place slot present
    obtain ⟨newFinal, belowFinal⟩ := final [] old new top topAfter changed
    cases place with
    | nil =>
        obtain rfl := Option.some.inj (topAfter.symm.trans present)
        exact newFinal
    | cons index rest =>
        exact belowFinal (index :: rest) slot (List.cons_ne_nil _ _)
          (by rw [List.nil_append, ← below, present])
  · intro settled place first second isFirst isSecond differs
    cases place with
    | nil =>
        refine ⟨settled [] second isSecond, fun place slot notTop present => ?_⟩
        cases place with
        | nil => exact absurd rfl notTop
        | cons index rest => exact settled (index :: rest) slot (by rw [below]; exact present)
    | cons index rest =>
        rw [below, isFirst] at isSecond
        exact absurd (Option.some.inj isSecond).symm differs

/-- Where the slot at the top stays, changes are final if those of all children are. -/
theorem changesFinally_iff_children {before after : Tree α} {change : Tree α → Tree α}
    (top : after.slot? = before.slot?) (children : after.children = before.children.map change) :
    compilation.ChangesFinally file before after ↔
      ∀ child ∈ before.children, compilation.ChangesFinally file child (change child) := by
  have belowAfter {index : Nat} {child : Tree α} (below : before.children[index]? = some child) :
      after.children[index]? = some (change child) := by
    rw [children, List.getElem?_map, below, Option.map_some]
  constructor
  · intro final child member place old new isOld isNew changed
    obtain ⟨index, below⟩ := List.mem_iff_getElem?.1 member
    have lifted := final (index :: place) old new (by rw [slotAt?_cons below, isOld])
      (by rw [slotAt?_cons (belowAfter below), isNew]) changed
    refine ⟨lifted.1, fun rest slot notTop present => lifted.2 rest slot notTop ?_⟩
    rw [List.cons_append, slotAt?_cons below, present]
  · intro final place old new isOld isNew changed
    cases place with
    | nil =>
        rw [slotAt?_nil, top] at isNew
        exact absurd (Option.some.inj (isNew.symm.trans isOld)) changed
    | cons index rest =>
        obtain ⟨child, below, oldBelow⟩ := exists_child_of_slotAt?_cons isOld
        rw [slotAt?_cons (belowAfter below)] at isNew
        obtain ⟨newFinal, belowFinal⟩ :=
          final child (List.mem_of_getElem? below) rest old new oldBelow isNew changed
        refine ⟨newFinal, fun others slot notTop present => belowFinal others slot notTop ?_⟩
        rwa [List.cons_append, slotAt?_cons below] at present

theorem settled_rewrite_iff_of_children {tree : Tree α}
    (each : ∀ child ∈ tree.children,
      compilation.Settled file (compilation.rewrite file child).value ↔
        compilation.ChangesFinally file child (compilation.rewrite file child).value) :
    compilation.Settled file (compilation.rewrite file tree).value ↔
      compilation.ChangesFinally file tree (compilation.rewrite file tree).value := by
  rcases rewrite_cases compilation file tree with
    ⟨slot, written, top, replaces, topAfter, children⟩ | ⟨stays, topAfter, children⟩
  · exact (changesFinally_iff_settled top topAfter replaces.slot_ne children).symm
  · have final : ∀ slot, tree.slot? = some slot → compilation.Final file slot := stays
    rw [settled_iff, changesFinally_iff_children topAfter children, topAfter,
      and_iff_right final, children, List.forall_mem_map]
    exact forall₂_congr each

/-- A rewritten tree is settled exactly if rewriting changed it finally. -/
theorem settled_rewrite_iff {tree : Tree α} :
    compilation.Settled file (compilation.rewrite file tree).value ↔
      compilation.ChangesFinally file tree (compilation.rewrite file tree).value := by
  induction tree with
  | node label children ih => exact settled_rewrite_iff_of_children ih
  | request form label slot children ih => exact settled_rewrite_iff_of_children ih

/-! ## Files without neighbours -/

/-- No `.mts` and no `.d.mts` stands beside a file if this is a `.ts`. -/
def Alone (host : Host) (path : Path) : Prop :=
  ∀ stem, path = Extension.ts.appendTo stem →
    host.isFile (Extension.mts.appendTo stem) = false ∧
      host.isFile (Extension.dmts.appendTo stem) = false

/-- The specifier of a file that stands alone leads back to it. -/
theorem Alone.value_resolve_toFile {host : Host} {options : Options} {target : Path}
    (alone : Alone host target) (directory : file.directory.isAbsolute = true)
    (clear : ∀ above ∈ file.directory.normalize.ancestors, host.isFile above = false)
    (attainable : Resolution.Attainable host options target)
    (told : Path.IsTold file.directory target) (asText : Resolution.SpelledAsText target)
    (known : Extension.ofPath target ≠ .unknown) :
    (Resolution.resolve host options file (Specifier.toFile file target)).value =
      some ⟨target, Specifier.toFile file target, Extension.ofPath target⟩ := by
  by_cases ends : Specifier.sourceEnding <:+ target.text
  · obtain ⟨base, isText, rfl⟩ :=
      Resolution.exists_appendTo_of_suffix (asText (Or.inl ends)) ends
    obtain ⟨noModule, noDeclaration⟩ := alone base rfl
    apply Resolution.value_resolve_toFile_of_source directory clear attainable isText known
    simp [noModule, noDeclaration, attainable.isFile]
  · exact Resolution.value_resolve_toFile_of_attainable directory clear attainable told asText
      known ends

/-- The conditions under which new specifiers lead back: the file has a directory below the
root, no file is where a directory has to be, and all files that are found have a known
extension, stand alone, and have a text for a path if their ending is exchanged. -/
structure LeadsBack (compilation : Compilation) (file : Path) : Prop where
  absolute : file.isAbsolute = true
  notRoot : file.components ≠ [.root]
  clear : ∀ above ∈ file.directory.normalize.ancestors, compilation.host.isFile above = false
  found : ∀ specifier found,
    (Resolution.resolve compilation.host compilation.options file specifier).value =
        some found →
      Resolution.SpelledAsText found.path ∧ found.extension ≠ .unknown ∧
        Alone compilation.host found.path

/-- A new specifier is not to be replaced again. -/
theorem LeadsBack.not_replaces {written specifier : Text}
    (leadsBack : compilation.LeadsBack file)
    (replaces : compilation.Replaces file written specifier) (again : Text) :
    ¬ compilation.Replaces file again written := by
  obtain ⟨found, resolved, isWritten⟩ := replaces.resolved
  obtain ⟨asText, known, alone⟩ := leadsBack.found specifier found resolved
  have directory := Path.isAbsolute_directory leadsBack.absolute leadsBack.notRoot
  have told := Resolution.isTold_of_resolve directory resolved known
  obtain ⟨-, -, extension⟩ :=
    Resolution.find?_candidates_of_resolve compilation.host compilation.options resolved
  rw [extension] at known
  have back := alone.value_resolve_toFile directory leadsBack.clear
    (Resolution.attainable_of_resolve directory resolved) told asText known
  rw [isWritten] at back
  intro replacesAgain
  obtain ⟨other, leads, isAgain⟩ := replacesAgain.resolved
  rw [back, Option.some.injEq] at leads
  apply replacesAgain.changed
  rw [← isAgain, ← leads, isWritten]

/-- No slot of a tree has another one below it. -/
def Flat (tree : Tree α) : Prop :=
  ∀ place below slot, tree.slotAt? place = some slot → below ≠ [] →
    tree.slotAt? (place ++ below) = none

theorem Flat.child {tree child : Tree α} (flat : Flat tree) (member : child ∈ tree.children) :
    Flat child := by
  intro place rest slot present notTop
  obtain ⟨index, below⟩ := List.mem_iff_getElem?.1 member
  have none := flat (index :: place) rest slot (by rw [slotAt?_cons below, present]) notTop
  rwa [List.cons_append, slotAt?_cons below] at none

theorem Flat.settled_child {tree child : Tree α} {slot : Literal} (flat : Flat tree)
    (top : tree.slot? = some slot) (member : child ∈ tree.children) :
    compilation.Settled file child := by
  intro place other present
  obtain ⟨index, below⟩ := List.mem_iff_getElem?.1 member
  have none := flat [] (index :: place) slot top (List.cons_ne_nil _ _)
  rw [List.nil_append, slotAt?_cons below, present] at none
  cases none

theorem LeadsBack.settled_rewrite_of_children (leadsBack : compilation.LeadsBack file)
    {tree : Tree α} (flat : Flat tree)
    (each : ∀ child ∈ tree.children, Flat child →
      compilation.Settled file (compilation.rewrite file child).value) :
    compilation.Settled file (compilation.rewrite file tree).value := by
  rw [settled_iff]
  rcases rewrite_cases compilation file tree with
    ⟨slot, written, top, replaces, topAfter, children⟩ | ⟨stays, topAfter, children⟩
  · rw [topAfter, children]
    refine ⟨fun new isNew => ?_, fun child member => flat.settled_child top member⟩
    obtain rfl := Option.some.inj isNew
    exact leadsBack.not_replaces replaces
  · rw [topAfter, children, List.forall_mem_map]
    exact ⟨stays, fun child member => each child member (flat.child member)⟩

/-- If no slot has another one below it, and new specifiers lead back, a rewritten tree is
settled. -/
theorem LeadsBack.settled_rewrite (leadsBack : compilation.LeadsBack file) {tree : Tree α}
    (flat : Flat tree) : compilation.Settled file (compilation.rewrite file tree).value := by
  induction tree with
  | node label children ih => exact leadsBack.settled_rewrite_of_children flat ih
  | request form label slot children ih => exact leadsBack.settled_rewrite_of_children flat ih

/-! ## Main results -/

theorem value_rewriteFile_rewriteFile_eq_iff {source : SourceFile α} :
    (compilation.rewriteFile (compilation.rewriteFile source).value).value =
        (compilation.rewriteFile source).value ↔
      compilation.Settled source.path (compilation.rewrite source.path source.program).value := by
  rw [← value_rewrite_eq_self_iff]
  simp only [rewriteFile, Traced.value_bind, Traced.value_pure, SourceFile.mk.injEq, true_and]

/-- Rewriting a file again changes nothing if new specifiers lead back and no request has
another one below it. -/
theorem rewriteFile_rewriteFile_of_leadsBack {source : SourceFile α}
    (leadsBack : compilation.LeadsBack source.path) (flat : Flat source.program) :
    (compilation.rewriteFile (compilation.rewriteFile source).value).value =
      (compilation.rewriteFile source).value :=
  value_rewriteFile_rewriteFile_eq_iff.2 (leadsBack.settled_rewrite flat)

/-- Rewriting a file again changes nothing exactly if wherever the first pass replaced a slot,
the new slot is not to be replaced, and neither is any slot below. -/
theorem rewriteFile_rewriteFile_iff (compilation : Compilation) (source : SourceFile α) :
    (compilation.rewriteFile (compilation.rewriteFile source).value).value =
        (compilation.rewriteFile source).value ↔
      compilation.ChangesFinally source.path source.program
        (compilation.rewriteFile source).value.program :=
  value_rewriteFile_rewriteFile_eq_iff.trans settled_rewrite_iff

/-- A compilation in which a module of the same name stands beside a source file. -/
def besideModule : Compilation :=
  ⟨.default, Resolution.twins⟩

/-- An import of this source file. -/
def plainImport : Tree Unit :=
  .node () [.request .importDeclaration () (.string ⟨8, 15⟩ "./lib".toList none) []]

/-- A call inside a call is replaced by the second pass only, and so is a specifier that leads
to a source file first and to the module beside it then. -/
theorem rewriteFile_rewriteFile_ne :
    (oneFile.rewriteFile
          (oneFile.rewriteFile ⟨.ofString "/src/app.ts", nestedCalls⟩).value).value ≠
        (oneFile.rewriteFile ⟨.ofString "/src/app.ts", nestedCalls⟩).value ∧
      (besideModule.rewriteFile
          (besideModule.rewriteFile ⟨.ofString "/src/app.ts", plainImport⟩).value).value ≠
        (besideModule.rewriteFile ⟨.ofString "/src/app.ts", plainImport⟩).value := by
  constructor
  · intro same
    have slots := congrArg (fun source => source.program.slotAt? [0, 0]) same
    revert slots
    decide
  · intro same
    have slots := congrArg (fun source => source.program.slotAt? [0]) same
    revert slots
    decide

end Compilation

end Relink
