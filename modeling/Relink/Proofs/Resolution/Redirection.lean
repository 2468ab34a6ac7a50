import Relink.Proofs.Path.Course
import Relink.Proofs.Resolution.FirstMatch
import Relink.Proofs.Resolution.Importers

/-!
# One file more

Of all that a host may have, the manifests alone decide which files are asked for.  So one
more file that is no manifest leaves the list of candidates as it is, and what a specifier
resolves to can only change to this file.
-/

namespace Relink

/-- A host that has all files of another, and differs from it at one path at most. -/
structure Host.Adds (smaller larger : Host) (path : Path) : Prop where
  kept : ∀ place, smaller.isFile place = true → larger.isFile place = true
  elsewhere : ∀ place, place.same path = false →
    larger.isFile place = smaller.isFile place ∧ larger.read place = smaller.read place

namespace Host

/-- The host with a file at a path. -/
def withFile (host : Host) (path : Path) (text : Option Text) : Host where
  isFile place := place.same path || host.isFile place
  read place := if place.same path then text else host.read place

/-- The host without the file at a path. -/
def withoutFile (host : Host) (path : Path) : Host where
  isFile place := !place.same path && host.isFile place
  read place := if place.same path then none else host.read place

theorem adds_withFile (host : Host) (path : Path) (text : Option Text) :
    host.Adds (host.withFile path text) path where
  kept place isFile := by simp [withFile, isFile]
  elsewhere place apart := by simp [withFile, apart]

theorem adds_withoutFile (host : Host) (path : Path) :
    (host.withoutFile path).Adds host path where
  kept place isFile := by
    rw [withoutFile, Bool.and_eq_true] at isFile
    exact isFile.2
  elsewhere place apart := by simp [withoutFile, apart]

end Host

namespace Resolution

open Relink.Path

theorem same_manifest_eq_false {path : Path}
    (notManifest : path.fileName? ≠ some "package.json".toList) (directory : Path) :
    (directory.join Manifest.fileName).same path = false := by
  have isName : IsName "package.json".toList := by decide
  have named : (directory.join Manifest.fileName).fileName? = some "package.json".toList :=
    fileName?_join directory isName
  rw [Path.same, decide_eq_false_iff_not]
  intro same
  apply notManifest
  rw [← named, fileName?, fileName?, same]

/-- The candidates depend on the manifests alone. -/
theorem candidates_congr {first second : Host}
    (manifests : manifestAt? first = manifestAt? second) (options : Options) (importer : Path)
    (specifier : Text) :
    candidates first options importer specifier =
      candidates second options importer specifier := by
  have esm : IsEsm first importer ↔ IsEsm second importer := by
    rw [IsEsm, IsEsm]
    simp only [Nearest, manifests]
  have files : directoryFiles first options = directoryFiles second options := by
    funext directory
    simp only [directoryFiles, value_manifest?, manifests]
  simp only [candidates, placeFiles, value_leniency, esm, files]

section Adds

variable {smaller larger : Host} {path : Path} (adds : smaller.Adds larger path)

include adds

theorem manifestAt?_of_adds (notManifest : path.fileName? ≠ some "package.json".toList) :
    manifestAt? larger = manifestAt? smaller := by
  funext directory
  obtain ⟨isFile, read⟩ := adds.elsewhere _ (same_manifest_eq_false notManifest directory)
  rw [manifestAt?, manifestAt?, isFile, read]

/-- The first file on a list stays, or the new file comes before it. -/
theorem find?_of_adds (places : List Path) :
    places.find? larger.isFile = places.find? smaller.isFile ∨
      ∃ found, places.find? larger.isFile = some found ∧ found.same path = true := by
  induction places with
  | nil => exact Or.inl rfl
  | cons place rest ih =>
      cases isFile : larger.isFile place with
      | true =>
          rw [List.find?_cons_of_pos isFile]
          cases isNew : place.same path with
          | true => exact Or.inr ⟨place, rfl, isNew⟩
          | false =>
              have alsoFile : smaller.isFile place = true := by
                rw [← (adds.elsewhere place isNew).1, isFile]
              rw [List.find?_cons_of_pos alsoFile]
              exact Or.inl rfl
      | false =>
          have alsoNot : ¬ smaller.isFile place = true := by
            intro alsoFile
            simp [adds.kept place alsoFile] at isFile
          rw [List.find?_cons_of_neg (by simp [isFile]), List.find?_cons_of_neg alsoNot]
          exact ih

end Adds

/-- One file more, which is no manifest, leaves a resolution as it is or makes it end at this
file.  So a file can be taken away without changing a resolution that ends elsewhere. -/
theorem resolve_of_adds {smaller larger : Host} {path : Path}
    (adds : smaller.Adds larger path)
    (notManifest : path.fileName? ≠ some "package.json".toList) (options : Options)
    (importer : Path) (specifier : Text) :
    ((resolve larger options importer specifier).value =
        (resolve smaller options importer specifier).value ∨
      ∃ found, (resolve larger options importer specifier).value = some found ∧
        found.path.same path = true) ∧
    ((∀ found, (resolve larger options importer specifier).value = some found →
        found.path.same path = false) →
      (resolve smaller options importer specifier).value =
        (resolve larger options importer specifier).value) := by
  have changes : (resolve larger options importer specifier).value =
        (resolve smaller options importer specifier).value ∨
      ∃ found, (resolve larger options importer specifier).value = some found ∧
        found.path.same path = true := by
    rw [value_resolve, value_resolve,
      candidates_congr (manifestAt?_of_adds adds notManifest)]
    split
    · rcases find?_of_adds adds (candidates smaller options importer specifier) with
        stays | ⟨found, first, isNew⟩
      · exact Or.inl (by rw [stays])
      · exact Or.inr ⟨_, by rw [first, Option.map_some], isNew⟩
    · exact Or.inl rfl
  refine ⟨changes, fun elsewhere => ?_⟩
  rcases changes with stays | ⟨found, resolved, isNew⟩
  · exact stays.symm
  · rw [elsewhere found resolved] at isNew
    cases isNew

/-- A component and its declarations. -/
def component : Host :=
  (Files.ofList [(.ofString "/p/view.tsx", none), (.ofString "/p/view.d.ts", none)]).host

theorem resolve_of_adds_component :
    (∃ found,
      (resolve (component.withFile (.ofString "/p/view.ts") none) .default
        (.ofString "/p/app.ts") "./view".toList).value = some found ∧
        found.path.same (.ofString "/p/view.ts") = true) ∧
      (resolve (component.withoutFile (.ofString "/p/view.d.ts")) .default
        (.ofString "/p/app.ts") "./view".toList).value =
          (resolve component .default (.ofString "/p/app.ts") "./view".toList).value := by
  have resolved : (resolve component .default (.ofString "/p/app.ts") "./view".toList).value =
      some ⟨.ofString "/p/view.tsx", "./view".toList, .tsx⟩ := by decide +kernel
  constructor
  · have added := Host.adds_withFile component (.ofString "/p/view.ts") none
    rcases (resolve_of_adds added (by decide) .default (.ofString "/p/app.ts")
      "./view".toList).1 with stays | new
    · rw [resolved] at stays
      exact absurd stays (by decide +kernel)
    · exact new
  · apply (resolve_of_adds (Host.adds_withoutFile component (.ofString "/p/view.d.ts"))
      (by decide) .default (.ofString "/p/app.ts") "./view".toList).2
    intro found isFound
    rw [resolved, Option.some.injEq] at isFound
    subst isFound
    decide +kernel

end Resolution

end Relink
