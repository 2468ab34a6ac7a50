import Relink.Proofs.Resolution.FirstMatch
import Relink.Proofs.Resolution.Importers

/-!
# Strategies compared

The files of a stricter strategy begin the list of a more lenient one.  So changing the
strategy makes specifiers resolve or not, but never moves one that resolves under both to
another file.
-/

namespace Relink

namespace Resolution

/-- What a specifier resolves to under a given strategy, the other options being kept. -/
def resolveUnder (host : Host) (options : Options) (importer : Path) (specifier : Text)
    (strategy : Strategy) : Option Resolved :=
  (resolve host { options with resolution := some strategy } importer specifier).value

variable (host : Host) (options : Options) (importer : Path) (specifier : Text)

/-- The files of the place that a specifier names. -/
def filesUnder (strategy : Strategy) : List Path :=
  placeFiles host options (leniency host strategy importer).value
    (Specifier.namesDirectory specifier) (place importer specifier)

theorem resolveUnder_eq (strategy : Strategy) :
    resolveUnder host options importer specifier strategy =
      if Specifier.isRelative specifier then
        ((filesUnder host options importer specifier strategy).find? host.isFile).map fun path =>
          ⟨path, specifier, Extension.ofPath path⟩
      else none :=
  value_resolve host { options with resolution := some strategy } importer specifier

section Compare

variable {host options importer specifier}

theorem resolveUnder_congr {first second : Strategy}
    (alike : (leniency host first importer).value = (leniency host second importer).value) :
    resolveUnder host options importer specifier first =
      resolveUnder host options importer specifier second := by
  rw [resolveUnder_eq, resolveUnder_eq, filesUnder, filesUnder, alike]

theorem resolveUnder_of_prefix {stricter lenient : Strategy} {found : Resolved}
    (begins : filesUnder host options importer specifier stricter <+:
      filesUnder host options importer specifier lenient)
    (resolved : resolveUnder host options importer specifier stricter = some found) :
    resolveUnder host options importer specifier lenient = some found := by
  rw [resolveUnder_eq] at resolved ⊢
  split at resolved
  · rename_i relative
    obtain ⟨path, first, rfl⟩ := Option.map_eq_some_iff.1 resolved
    rw [if_pos relative, begins.find?_eq_some first, Option.map_some]
  · cases resolved

theorem exact_prefix_extensionsAdded (host : Host) (options : Options) (asDirectory : Bool)
    (place : Path) :
    placeFiles host options .exact asDirectory place <+:
      placeFiles host options .extensionsAdded asDirectory place := by
  cases asDirectory <;> simp [placeFiles]

theorem extensionsAdded_prefix_directoriesRead (host : Host) (options : Options)
    (asDirectory : Bool) (place : Path) :
    placeFiles host options .extensionsAdded asDirectory place <+:
      placeFiles host options .directoriesRead asDirectory place := by
  cases asDirectory <;> simp [placeFiles]

end Compare

/-! ## Main result -/

/-- What a specifier resolves to under the strategies.  An importer that is no ES module has
the files of `node10` under all of them but `classic`; the files of an ES module are found
under `classic`, and the files of `classic` under `node10`. -/
theorem resolveUnder_refines :
    (resolve host options importer specifier).value =
        resolveUnder host options importer specifier options.strategy ∧
      ((isEsmImporter host importer).value = true ↔ IsEsm host importer) ∧
      resolveUnder host options importer specifier .bundler =
        resolveUnder host options importer specifier .node10 ∧
      (¬ IsEsm host importer → ∀ strategy ∈ [Strategy.node16, .nodeNext],
        resolveUnder host options importer specifier strategy =
          resolveUnder host options importer specifier .node10) ∧
      (IsEsm host importer → ∀ strategy ∈ [Strategy.node16, .nodeNext], ∀ found,
        resolveUnder host options importer specifier strategy = some found →
          resolveUnder host options importer specifier .classic = some found) ∧
      ∀ found, resolveUnder host options importer specifier .classic = some found →
        resolveUnder host options importer specifier .node10 = some found := by
  have family (strategy : Strategy) (among : strategy ∈ [Strategy.node16, .nodeNext]) :
      (leniency host strategy importer).value =
        if IsEsm host importer then .exact else .directoriesRead := by
    simp only [List.mem_cons, List.not_mem_nil, or_false] at among
    rcases among with rfl | rfl <;> simp [value_leniency, Strategy.isNode16Family]
  refine ⟨?itself, value_isEsmImporter_iff host importer, resolveUnder_congr rfl, ?commonJs,
    ?esm, ?classic⟩
  case itself =>
    rw [resolveUnder_eq, value_resolve]
    rfl
  case commonJs =>
    intro notEsm strategy among
    apply resolveUnder_congr
    rw [family strategy among, if_neg notEsm]
    rfl
  case esm =>
    intro esm strategy among found
    apply resolveUnder_of_prefix
    rw [filesUnder, family strategy among, if_pos esm]
    exact exact_prefix_extensionsAdded host options _ _
  case classic =>
    intro found
    exact resolveUnder_of_prefix (extensionsAdded_prefix_directoriesRead host options _ _)

/-- A package of ES modules. -/
def esmPackage : Host :=
  (Files.ofList [(.ofString "/p/package.json", some "\x7b\"type\":\"module\"\x7d".toList),
    (.ofString "/p/src/lib.ts", none)]).host

theorem resolveUnder_refines_esmPackage :
    IsEsm esmPackage (.ofString "/p/src/app.ts") ∧
      ¬ IsEsm esmPackage (.ofString "/p/src/app.cts") ∧
      (∃ found,
        resolveUnder esmPackage .default (.ofString "/p/src/app.ts") "./lib.js".toList .node16 =
          some found ∧
        resolveUnder esmPackage .default (.ofString "/p/src/app.ts") "./lib.js".toList .classic =
          some found ∧
        resolveUnder esmPackage .default (.ofString "/p/src/app.ts") "./lib.js".toList .node10 =
          some found) ∧
      resolveUnder esmPackage .default (.ofString "/p/src/app.cts") "./lib".toList .nodeNext =
        resolveUnder esmPackage .default (.ofString "/p/src/app.cts") "./lib".toList .node10 := by
  have esm : IsEsm esmPackage (.ofString "/p/src/app.ts") := by decide +kernel
  have commonJs : ¬ IsEsm esmPackage (.ofString "/p/src/app.cts") := by decide +kernel
  have asked :
      resolveUnder esmPackage .default (.ofString "/p/src/app.ts") "./lib.js".toList .node16 =
        some ⟨.ofString "/p/src/lib.ts", "./lib.js".toList, .ts⟩ := by decide +kernel
  obtain ⟨-, -, -, -, fromEsm, fromClassic⟩ := resolveUnder_refines esmPackage .default
    (.ofString "/p/src/app.ts") "./lib.js".toList
  obtain ⟨-, -, -, fromCommonJs, -, -⟩ := resolveUnder_refines esmPackage .default
    (.ofString "/p/src/app.cts") "./lib".toList
  have classic := fromEsm esm .node16 (by simp) _ asked
  exact ⟨esm, commonJs, ⟨_, asked, classic, fromClassic _ classic⟩,
    fromCommonJs commonJs .nodeNext (by simp)⟩

end Resolution

end Relink
