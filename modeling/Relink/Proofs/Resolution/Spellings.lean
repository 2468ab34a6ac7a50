import Relink.Proofs.Path.Directory
import Relink.Proofs.Resolution.Strategies

/-!
# Spellings of an importer

The place that a specifier names does not depend on how its importer is spelled.  The
manifests above the importer do: they are looked for in the directories that the spelling
passes through, detours included.  So two spellings of one file differ at most in whether the
file counts as an ES module, and then in the specifiers that leave something open.
-/

namespace Relink

/-- Whether a host tells paths apart by the steps they take alone. -/
def Host.ByComponents (host : Host) : Prop :=
  ∀ path other : Path, path.same other = true →
    host.isFile path = host.isFile other ∧ host.read path = host.read other

theorem Files.byComponents_host (files : Files) : files.host.ByComponents := by
  intro path other same
  have equal : path.components = other.components := by simpa [Path.same] using same
  have found : files.find? path = files.find? other := by
    unfold Files.find? Path.same
    rw [equal]
  exact ⟨by simp only [Files.host, found], by simp only [Files.host, found]⟩

namespace Resolution

open Relink.Path

variable {host : Host} {options : Options} {specifier : Text}

/-! ## What is left open -/

/-- Whether a specifier asks for a file with its ending, as an ES module has to. -/
def SpellsOut (options : Options) (importer : Path) (specifier : Text) (path : Path) : Prop :=
  Specifier.namesDirectory specifier = false ∧ path ∈ spelled options (place importer specifier)

/-- Two searches, one of which goes on where the other stops, agree exactly if what the longer
one finds stands on the list of the shorter one. -/
theorem find?_eq_find?_iff_of_prefix {paths more : List Path} (begins : paths <+: more)
    (holds : Path → Bool) :
    paths.find? holds = more.find? holds ↔
      ∀ path, more.find? holds = some path → path ∈ paths := by
  constructor
  · intro same path first
    rw [← same] at first
    exact List.mem_of_find?_eq_some first
  · intro within
    cases first : more.find? holds with
    | none => exact List.find?_eq_none.2 fun path member =>
        List.find?_eq_none.1 first path (begins.subset member)
    | some path =>
        cases early : paths.find? holds with
        | none =>
            have absent := List.find?_eq_none.1 early path (within path first)
            exact absurd (List.find?_some first) absent
        | some other => rw [← first, begins.find?_eq_some early]

theorem mem_exact_iff (host : Host) {importer path : Path} :
    path ∈ placeFiles host options .exact (Specifier.namesDirectory specifier)
        (place importer specifier) ↔
      SpellsOut options importer specifier path := by
  cases asDirectory : Specifier.namesDirectory specifier <;>
    simp [placeFiles, SpellsOut, asDirectory]

/-- An ES module is answered like other importers exactly if it asks with the ending for what
they would be given. -/
theorem resolveUnder_eq_node10_iff {importer : Path} {strategy : Strategy}
    (exact : (leniency host strategy importer).value = .exact) :
    resolveUnder host options importer specifier strategy =
        resolveUnder host options importer specifier .node10 ↔
      ∀ found, resolveUnder host options importer specifier .node10 = some found →
        SpellsOut options importer specifier found.path := by
  have begins : filesUnder host options importer specifier strategy <+:
      filesUnder host options importer specifier .node10 := by
    rw [filesUnder, filesUnder, exact]
    exact (exact_prefix_extensionsAdded host options _ _).trans
      (extensionsAdded_prefix_directoriesRead host options _ _)
  have injective : Function.Injective fun path : Path =>
      (⟨path, specifier, Extension.ofPath path⟩ : Resolved) := by
    intro path other same
    exact congrArg Resolved.path same
  rw [resolveUnder_eq, resolveUnder_eq]
  split
  · rw [(Option.map_injective injective).eq_iff, find?_eq_find?_iff_of_prefix begins]
    simp only [Option.map_eq_some_iff, forall_exists_index, and_imp, filesUnder, exact,
      mem_exact_iff]
    constructor
    · rintro within found path first rfl
      exact within path first
    · intro within path first
      exact within _ path first rfl
  · simp

/-! ## Importers at one place -/

theorem resolveUnder_congr_importer {first second : Path} {strategy other : Strategy}
    (placed : place first specifier = place second specifier)
    (alike : (leniency host strategy first).value = (leniency host other second).value) :
    resolveUnder host options first specifier strategy =
      resolveUnder host options second specifier other := by
  rw [resolveUnder_eq, resolveUnder_eq, filesUnder, filesUnder, alike, placed]

theorem value_resolve_eq_resolveUnder (host : Host) (options : Options) (importer : Path)
    (specifier : Text) :
    (resolve host options importer specifier).value =
      resolveUnder host options importer specifier options.strategy := by
  rw [resolveUnder_eq, value_resolve]
  rfl

/-! ## The manifests above an importer -/

theorem manifestAt?_congr (byComponents : host.ByComponents) {directory other : Path}
    (same : directory.components = other.components) :
    manifestAt? host directory = manifestAt? host other := by
  have isName : IsName Manifest.fileName.letters := by decide
  have place : (directory.join Manifest.fileName).components =
      (other.join Manifest.fileName).components := by
    rw [components_join_name directory isName, components_join_name other isName, same]
  obtain ⟨isFile, read⟩ := byComponents (directory.join Manifest.fileName)
    (other.join Manifest.fileName) (by simpa [Path.same] using place)
  rw [manifestAt?, manifestAt?, isFile, read]

theorem findSome?_eq_of_forall₂ {α β : Type} {related : α → α → Prop} {seek : α → Option β}
    {items others : List α} (alike : List.Forall₂ related items others)
    (congruent : ∀ item other, related item other → seek item = seek other) :
    items.findSome? seek = others.findSome? seek := by
  induction alike with
  | nil => rfl
  | cons head _ ih => rw [List.findSome?_cons, List.findSome?_cons, congruent _ _ head, ih]

/-- Importers that take the same steps pass through the same manifests. -/
theorem isEsm_iff_of_components_eq (byComponents : host.ByComponents) {first second : Path}
    {name : Letters} (named : first.fileName? = some name)
    (same : first.components = second.components) : IsEsm host first ↔ IsEsm host second := by
  have alsoNamed : second.fileName? = some name := by rw [← named, fileName?, fileName?, same]
  have extension : Extension.ofPath first = Extension.ofPath second := by
    rw [Extension.ofPath, Extension.ofPath, named, alsoNamed]
  have directories : first.directory.components = second.directory.components := by
    rw [components_of_fileName? named, components_of_fileName? alsoNamed] at same
    exact List.append_cancel_right same
  have manifests := findSome?_eq_of_forall₂ (forall₂_ancestors directories)
    fun _ _ => manifestAt?_congr byComponents
  rw [← value_isEsmImporter_iff, ← value_isEsmImporter_iff, isEsmImporter, isEsmImporter]
  simp only [Traced.value_bind, Traced.value_pure, value_nearestManifest?, manifests, extension]

theorem value_leniency_congr {first second : Path} (mode : IsEsm host first ↔ IsEsm host second)
    (strategy : Strategy) :
    (leniency host strategy first).value = (leniency host strategy second).value := by
  rw [value_leniency, value_leniency]
  simp only [mode]

/-- An ES module and another importer at one place are answered alike exactly if the specifier
asks with the ending for what the other importer is given. -/
theorem resolve_eq_iff_of_modes (options : Options) {esm commonJs : Path}
    (placed : place esm specifier = place commonJs specifier) (isEsm : IsEsm host esm)
    (notEsm : ¬ IsEsm host commonJs) (family : options.strategy ∈ [.node16, .nodeNext]) :
    (resolve host options esm specifier).value =
        (resolve host options commonJs specifier).value ↔
      ∀ found, resolveUnder host options esm specifier .node10 = some found →
        SpellsOut options esm specifier found.path := by
  have isFamily : options.strategy.isNode16Family = true ∧ options.strategy ≠ .classic := by
    simp only [List.mem_cons, List.not_mem_nil, or_false] at family
    rcases family with isStrategy | isStrategy <;> simp [isStrategy, Strategy.isNode16Family]
  have exact : (leniency host options.strategy esm).value = .exact := by
    simp [value_leniency, isFamily, isEsm]
  have lenient : (leniency host options.strategy commonJs).value =
      (leniency host .node10 esm).value := by
    simp [value_leniency, isFamily, notEsm, Strategy.isNode16Family]
  rw [value_resolve_eq_resolveUnder, value_resolve_eq_resolveUnder,
    resolveUnder_congr_importer placed.symm lenient, resolveUnder_eq_node10_iff exact]

/-! ## Main result -/

/-- Two spellings of one importer are answered alike under the strategies that do not look at
manifests above it.  Under the others they are answered alike exactly if both count as an ES
module or neither does, or if the specifier asks with the ending for what it may stand for.  A
host that tells paths apart by their steps cannot tell apart spellings with the same steps. -/
theorem resolve_eq_iff_of_spellings {first second : Path} {name other : Letters}
    (firstNamed : first.fileName? = some name) (secondNamed : second.fileName? = some other)
    (same : first.normalize = second.normalize) (host : Host) (options : Options)
    (specifier : Text) :
    (∀ strategy ∈ [Strategy.classic, .node10, .bundler],
        resolveUnder host options first specifier strategy =
          resolveUnder host options second specifier strategy) ∧
      ((resolve host options first specifier).value =
          (resolve host options second specifier).value ↔
        options.strategy ∈ [.node16, .nodeNext] →
          (IsEsm host first ↔ IsEsm host second) ∨
            ∀ found, resolveUnder host options first specifier .node10 = some found →
              SpellsOut options first specifier found.path) ∧
      (host.ByComponents → first.components = second.components →
        (resolve host options first specifier).value =
          (resolve host options second specifier).value) := by
  obtain ⟨rfl, directories⟩ := fileName?_and_directory_of_normalize_eq firstNamed secondNamed same
  have placed : place first specifier = place second specifier :=
    normalize_join_congr directories ⟨specifier⟩
  have plain : ∀ strategy ∈ [Strategy.classic, .node10, .bundler],
      resolveUnder host options first specifier strategy =
        resolveUnder host options second specifier strategy := by
    intro strategy among
    apply resolveUnder_congr_importer placed
    simp only [List.mem_cons, List.not_mem_nil, or_false] at among
    rcases among with rfl | rfl | rfl <;> rfl
  have alike (mode : IsEsm host first ↔ IsEsm host second) :
      (resolve host options first specifier).value =
        (resolve host options second specifier).value := by
    rw [value_resolve_eq_resolveUnder, value_resolve_eq_resolveUnder]
    exact resolveUnder_congr_importer placed (value_leniency_congr mode _)
  refine ⟨plain, ?exactly, fun byComponents steps =>
    alike (isEsm_iff_of_components_eq byComponents firstNamed steps)⟩
  case exactly =>
    -- Under the other strategies both sides hold.
    by_cases family : options.strategy ∈ [.node16, .nodeNext]
    · by_cases isEsm : IsEsm host first <;> by_cases alsoEsm : IsEsm host second
      · exact iff_of_true (alike (iff_of_true isEsm alsoEsm)) fun _ =>
          Or.inl (iff_of_true isEsm alsoEsm)
      · have exactly := resolve_eq_iff_of_modes options placed isEsm alsoEsm family
        simpa [family, isEsm, alsoEsm] using exactly
      · have exactly := resolve_eq_iff_of_modes options placed.symm alsoEsm isEsm family
        have node10 := plain .node10 (by simp)
        rw [eq_comm, exactly, ← node10]
        simp [family, isEsm, alsoEsm, SpellsOut, placed]
      · exact iff_of_true (alike (iff_of_false isEsm alsoEsm)) fun _ =>
          Or.inl (iff_of_false isEsm alsoEsm)
    · have others : options.strategy ∈ [Strategy.classic, .node10, .bundler] := by
        cases strategy : options.strategy <;> simp_all
      rw [value_resolve_eq_resolveUnder, value_resolve_eq_resolveUnder]
      exact iff_of_true (plain _ others) fun isFamily => absurd isFamily family

/-- A package of ES modules beside a directory of other files. -/
def besideEsmPackage : Files :=
  .ofList [(.ofString "/p/pkg/package.json", some "\x7b\"type\":\"module\"\x7d".toList),
    (.ofString "/p/src/lib.ts", none)]

/-- The options that tell ES modules from other importers. -/
def nodeNextOptions : Options :=
  { Options.default with resolution := some .nodeNext }

/-- The detour does not matter for a specifier that asks with the ending, and other spellings of
the same steps matter for none. -/
theorem resolve_eq_iff_of_spellings_detour :
    (Path.ofString "/p/pkg/../src/app.ts").fileName? = some (Letters.ofText "app.ts".toList) ∧
      (Path.ofString "/p/src/app.ts").fileName? = some (Letters.ofText "app.ts".toList) ∧
      (Path.ofString "/p/pkg/../src/app.ts").normalize =
        (Path.ofString "/p/src/app.ts").normalize ∧
      (resolve besideEsmPackage.host nodeNextOptions (.ofString "/p/pkg/../src/app.ts")
          "./lib.js".toList).value =
        (resolve besideEsmPackage.host nodeNextOptions (.ofString "/p/src/app.ts")
          "./lib.js".toList).value ∧
      (resolve besideEsmPackage.host nodeNextOptions (.ofString "/p//src/./app.ts")
          "./lib".toList).value =
        (resolve besideEsmPackage.host nodeNextOptions (.ofString "/p/src/app.ts")
          "./lib".toList).value := by
  have detour : (Path.ofString "/p/pkg/../src/app.ts").fileName? =
      some (Letters.ofText "app.ts".toList) := by
    decide
  have slashes : (Path.ofString "/p//src/./app.ts").fileName? =
      some (Letters.ofText "app.ts".toList) := by
    decide
  have plain : (Path.ofString "/p/src/app.ts").fileName? =
      some (Letters.ofText "app.ts".toList) := by
    decide
  have same : (Path.ofString "/p/pkg/../src/app.ts").normalize =
      (Path.ofString "/p/src/app.ts").normalize := by decide
  have alsoSame : (Path.ofString "/p//src/./app.ts").normalize =
      (Path.ofString "/p/src/app.ts").normalize := by decide
  have asked : resolveUnder besideEsmPackage.host nodeNextOptions
      (.ofString "/p/pkg/../src/app.ts") "./lib.js".toList .node10 =
        some ⟨.ofString "/p/src/lib.ts", "./lib.js".toList, .ts⟩ := by decide +kernel
  refine ⟨detour, plain, same, ?_, ?_⟩
  · apply (resolve_eq_iff_of_spellings detour plain same _ _ _).2.1.2
    intro _
    refine Or.inr fun found isFound => ?_
    rw [asked, Option.some.injEq] at isFound
    subst isFound
    exact ⟨by decide, by decide +kernel⟩
  · exact (resolve_eq_iff_of_spellings slashes plain alsoSame _ _ _).2.2
      (Files.byComponents_host besideEsmPackage) (by decide)

/-- A detour through a package of ES modules makes its manifest count for a file that lies
elsewhere. -/
theorem resolve_ne_of_detour :
    (Path.ofString "/p/pkg/../src/app.ts").fileName? = some (Letters.ofText "app.ts".toList) ∧
      (Path.ofString "/p/src/app.ts").fileName? = some (Letters.ofText "app.ts".toList) ∧
      (Path.ofString "/p/pkg/../src/app.ts").normalize =
        (Path.ofString "/p/src/app.ts").normalize ∧
      (resolve besideEsmPackage.host nodeNextOptions (.ofString "/p/src/app.ts")
          "./lib".toList).value = some ⟨.ofString "/p/src/lib.ts", "./lib".toList, .ts⟩ ∧
      (resolve besideEsmPackage.host nodeNextOptions (.ofString "/p/pkg/../src/app.ts")
          "./lib".toList).value = none := by
  refine ⟨by decide, by decide, by decide, by decide +kernel, by decide +kernel⟩

end Resolution

end Relink
