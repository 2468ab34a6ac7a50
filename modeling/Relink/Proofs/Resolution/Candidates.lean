import Relink.Proofs.Extension
import Relink.Proofs.Resolution.FirstMatch

/-!
# What the candidates are

All candidates of a resolution from the root are normal paths that end in an extension the
options admit.  A script whose path is a text never stands on the list before the sources it may
stand for, so that it is found only where none of these is a file.
-/

namespace Relink

open Relink.Path

/-- Whether the options let a specifier stand for files with an extension. -/
def Options.admits (options : Options) (extension : Extension) : Bool :=
  extension.isTypeScript || (extension.isJavaScript && options.allowJs) ||
    (extension = .json && options.resolveJsonModule)

namespace Extension

theorem sources_of_isTypeScript {extension : Extension}
    (typed : extension.isTypeScript = true) : extension.sources = [] := by
  cases extension <;> simp_all [isTypeScript, sources]

theorem isJavaScript_of_mem_sources {extension source : Extension}
    (member : source ∈ extension.sources) : extension.isJavaScript = true := by
  cases extension <;> simp_all [isJavaScript, sources]

theorem isTypeScript_of_mem_sources {extension source : Extension}
    (member : source ∈ extension.sources) : source.isTypeScript = true := by
  cases extension <;> simp_all [sources] <;> rcases member with rfl | rfl | rfl <;> rfl

theorem ne_unknown_of_isTypeScript {extension : Extension}
    (typed : extension.isTypeScript = true) : extension ≠ .unknown := by
  rintro rfl
  simp [isTypeScript] at typed

theorem ne_unknown_of_isJavaScript {extension : Extension}
    (script : extension.isJavaScript = true) : extension ≠ .unknown := by
  rintro rfl
  simp [isJavaScript] at script

theorem mem_simple_of_isJavaScript {extension : Extension}
    (script : extension.isJavaScript = true) : extension ∈ simple := by
  cases extension <;> simp_all [isJavaScript, simple]

/-- A path that ends in an extension has this one, or one without sources. -/
theorem sources_ofPath_of_suffix {path : Path} (normal : path.IsNormal) {extension : Extension}
    (known : extension ≠ .unknown) (ends : extension.text <:+ path.text) :
    (ofPath path).sources = [] ∨ ofPath path = extension := by
  by_cases unknown : ofPath path = .unknown
  · exact Or.inl (by rw [unknown]; rfl)
  · rcases eq_or_isTypeScript_of_suffixes known unknown ends (text_suffix_ofPath normal) with
      same | ⟨-, typed⟩
    · exact Or.inr same.symm
    · exact Or.inl (sources_of_isTypeScript typed)

theorem ofPath_exchange_ne_unknown {path : Path} (normal : path.IsNormal)
    (script : (ofPath path).isJavaScript = true) {new : Extension} (newKnown : new ≠ .unknown) :
    ofPath (new.appendTo ((ofPath path).dropFrom path)) ≠ .unknown := by
  have known := ne_unknown_of_isJavaScript script
  have notAlone : ofPath path ≠ ofName (ofPath path).text := by
    rwa [ofName_text_of_mem_simple (mem_simple_of_isJavaScript script)]
  rcases ofPath_exchange (text_suffix_ofPath normal) newKnown normal known notAlone with
    same | ⟨-, typed⟩
  · rwa [same]
  · exact ne_unknown_of_isTypeScript typed

end Extension

namespace Resolution

/-! ## Admitted paths -/

/-- A normal path from the root that ends in an extension which the options admit.  Unless
this is one of those that are appended, it is also what the path counts as. -/
structure Admitted (options : Options) (path : Path) : Prop where
  rooted : path.IsRooted
  ending : ∃ extension, options.admits extension = true ∧ extension.text <:+ path.text ∧
    (extension ∈ implied options ∨ Extension.ofPath path ≠ .unknown)

theorem ne_unknown_of_admits {options : Options} {extension : Extension}
    (admitted : options.admits extension = true) : extension ≠ .unknown := by
  rintro rfl
  simp [Options.admits, Extension.isTypeScript, Extension.isJavaScript] at admitted

theorem admits_of_isTypeScript (options : Options) {extension : Extension}
    (typed : extension.isTypeScript = true) : options.admits extension = true := by
  simp [Options.admits, typed]

theorem admits_of_mem_implied {options : Options} {extension : Extension}
    (member : extension ∈ implied options) : options.admits extension = true := by
  unfold implied at member
  cases scripts : options.allowJs <;> simp [scripts] at member <;>
    rcases member with rfl | rfl | rfl | rfl | rfl <;>
    simp [Options.admits, Extension.isTypeScript, Extension.isJavaScript, scripts]

variable {options : Options}

/-- Every known extension that an admitted path ends in is admitted. -/
theorem Admitted.admits {path : Path} (admitted : Admitted options path) {extension : Extension}
    (known : extension ≠ .unknown) (ends : extension.text <:+ path.text) :
    options.admits extension = true := by
  obtain ⟨other, otherAdmitted, otherEnds, -⟩ := admitted.ending
  rcases Extension.eq_or_isTypeScript_of_suffixes (ne_unknown_of_admits otherAdmitted) known
    otherEnds ends with rfl | ⟨-, typed⟩
  · exact otherAdmitted
  · exact admits_of_isTypeScript options typed

/-- An admitted path that ends like an ES module script counts as one. -/
theorem Admitted.ofPath_of_mjs {path : Path} (admitted : Admitted options path)
    (ends : Extension.mjs.text <:+ path.text) : Extension.ofPath path = .mjs := by
  obtain ⟨other, otherAdmitted, otherEnds, appended⟩ := admitted.ending
  have isOther : other = .mjs := by
    rcases Extension.eq_or_isTypeScript_of_suffixes (ne_unknown_of_admits otherAdmitted)
      (by decide) otherEnds ends with same | ⟨-, typed⟩
    · exact same
    · simp [Extension.isTypeScript] at typed
  -- No `.mjs` is ever appended, so that the path is more than its extension.
  have known : Extension.ofPath path ≠ .unknown := by
    rcases appended with member | known
    · subst isOther
      cases scripts : options.allowJs <;> simp [implied, scripts] at member
    · exact known
  rcases Extension.eq_or_isTypeScript_of_suffixes known (by decide)
    (Extension.text_suffix_ofPath admitted.rooted.normal) ends with same | ⟨-, typed⟩
  · exact same
  · simp [Extension.isTypeScript] at typed

theorem admitted_appendTo {place : Path} (rooted : place.IsRooted) {extension : Extension}
    (member : extension ∈ implied options) : Admitted options (extension.appendTo place) := by
  have admits := admits_of_mem_implied member
  exact ⟨Extension.isRooted_appendTo rooted (ne_unknown_of_admits admits),
    extension, admits, Extension.text_suffix_appendTo _ _, Or.inl member⟩

theorem admitted_self {path : Path} (rooted : path.IsRooted)
    (admits : options.admits (Extension.ofPath path) = true) : Admitted options path :=
  ⟨rooted, Extension.ofPath path, admits, Extension.text_suffix_ofPath rooted.normal,
    Or.inr (ne_unknown_of_admits admits)⟩

theorem admitted_exchange {path : Path} (rooted : path.IsRooted) {source : Extension}
    (member : source ∈ (Extension.ofPath path).sources) :
    Admitted options (source.appendTo ((Extension.ofPath path).dropFrom path)) := by
  have script := Extension.isJavaScript_of_mem_sources member
  have typed := Extension.isTypeScript_of_mem_sources member
  have known := Extension.ne_unknown_of_isTypeScript typed
  have exchanged := Extension.isRooted_exchange (Extension.text_suffix_ofPath rooted.normal)
    known rooted
  exact ⟨exchanged, source, admits_of_isTypeScript options typed,
    Extension.text_suffix_appendTo _ _,
    Or.inr (Extension.ofPath_exchange_ne_unknown rooted.normal script known)⟩

/-! ## Sources before scripts -/

/-- The files that a path stands for first, by its extension. -/
def sourceFiles (path : Path) : List Path :=
  (Extension.ofPath path).sources.map fun source =>
    source.appendTo ((Extension.ofPath path).dropFrom path)

/-- A path stands for its sources by its extension, and then for itself if it is admitted. -/
theorem spelled_eq (place : Path) :
    spelled options place =
      sourceFiles place ++
        if options.admits (Extension.ofPath place) then [place] else [] := by
  unfold spelled sourceFiles Options.admits
  cases Extension.ofPath place <;> cases options.allowJs <;> cases options.resolveJsonModule <;>
    simp [Extension.isJavaScript, Extension.isTypeScript, Extension.sources]

theorem mem_spelled_iff {path place : Path} :
    path ∈ spelled options place ↔
      path ∈ sourceFiles place ∨
        path = place ∧ options.admits (Extension.ofPath place) = true := by
  rw [spelled_eq, List.mem_append]
  split <;> simp_all

/-- Every path on the list that is a text comes behind its sources, where those of `seen` come
before the whole list. -/
def SourcesFirst (seen : List Path) : List Path → Prop
  | [] => True
  | path :: rest =>
      (path.IsText → ∀ source ∈ sourceFiles path, source ∈ seen) ∧
        SourcesFirst (path :: seen) rest

theorem SourcesFirst.mono {seen more paths : List Path} (ordered : SourcesFirst seen paths)
    (within : seen ⊆ more) : SourcesFirst more paths := by
  induction paths generalizing seen more with
  | nil => trivial
  | cons path rest ih =>
      exact ⟨fun isText source member => within (ordered.1 isText source member),
        ih ordered.2 (List.cons_subset_cons path within)⟩

theorem SourcesFirst.append {seen first second : List Path}
    (firstOrdered : SourcesFirst seen first)
    (secondOrdered : SourcesFirst (first.reverse ++ seen) second) :
    SourcesFirst seen (first ++ second) := by
  induction first generalizing seen with
  | nil => exact secondOrdered
  | cons path rest ih =>
      refine ⟨firstOrdered.1, ih firstOrdered.2 ?_⟩
      rwa [List.reverse_cons, List.append_assoc, List.singleton_append] at secondOrdered

/-- The first file on such a list has no source that is a file. -/
theorem SourcesFirst.not_isFile {host : Host} {seen paths : List Path} {path : Path}
    (ordered : SourcesFirst seen paths) (passed : ∀ other ∈ seen, host.isFile other = false)
    (found : paths.find? host.isFile = some path) (isText : path.IsText) :
    ∀ source ∈ sourceFiles path, host.isFile source = false := by
  induction paths generalizing seen with
  | nil => simp at found
  | cons first rest ih =>
      cases isFile : host.isFile first with
      | true =>
          rw [List.find?_cons_of_pos isFile, Option.some.injEq] at found
          subst found
          exact fun source member => passed source (ordered.1 isText source member)
      | false =>
          rw [List.find?_cons_of_neg (by simp [isFile])] at found
          apply ih ordered.2 _ found
          intro other member
          rcases List.mem_cons.1 member with rfl | earlier
          · exact isFile
          · exact passed other earlier

theorem sourceFiles_of_sources_eq_nil {path : Path}
    (none : (Extension.ofPath path).sources = []) : sourceFiles path = [] := by
  simp [sourceFiles, none]

theorem sourcesFirst_of_sourceFiles_eq_nil {paths : List Path}
    (none : ∀ path ∈ paths, sourceFiles path = []) (seen : List Path) :
    SourcesFirst seen paths := by
  induction paths generalizing seen with
  | nil => trivial
  | cons path rest ih =>
      refine ⟨fun _ => ?_, ih (fun other member => none other (List.mem_cons_of_mem path member)) _⟩
      rw [none path List.mem_cons_self]
      simp

/-- A path with the extension of source text stands for no other file. -/
theorem sourceFiles_of_suffix {path : Path} (normal : path.IsNormal) {extension : Extension}
    (typed : extension.isTypeScript = true) (ends : extension.text <:+ path.text) :
    sourceFiles path = [] := by
  apply sourceFiles_of_sources_eq_nil
  rcases Extension.sources_ofPath_of_suffix normal (Extension.ne_unknown_of_isTypeScript typed)
    ends with none | same
  · exact none
  · rw [same]
    exact Extension.sources_of_isTypeScript typed

/-- The sources of a text with an appended extension are other extensions of this text. -/
theorem mem_of_mem_sourceFiles_appendTo {place : Path} (normal : place.IsNormal)
    {extension : Extension} (known : extension ≠ .unknown) {seen : List Path}
    (within : ∀ source ∈ extension.sources, source.appendTo place ∈ seen)
    (isText : (extension.appendTo place).IsText) :
    ∀ file ∈ sourceFiles (extension.appendTo place), file ∈ seen := by
  intro file member
  rcases Extension.sources_ofPath_of_suffix (Extension.isNormal_appendTo normal known) known
    (Extension.text_suffix_appendTo _ _) with none | same
  · rw [sourceFiles_of_sources_eq_nil none] at member
    exact absurd member List.not_mem_nil
  · rw [sourceFiles, same, Extension.dropFrom_appendTo,
      (Extension.isText_appendTo_iff _ _).1 isText] at member
    obtain ⟨source, among, rfl⟩ := List.mem_map.1 member
    exact within source among

/-- A list of candidates: admitted paths, where those that are texts come behind their sources. -/
structure Orderly (options : Options) (paths : List Path) : Prop where
  admitted : ∀ path ∈ paths, Admitted options path
  sourcesFirst : SourcesFirst [] paths

theorem orderly_nil : Orderly options [] :=
  ⟨List.forall_mem_nil _, trivial⟩

theorem Orderly.append {first second : List Path} (firstOrderly : Orderly options first)
    (secondOrderly : Orderly options second) : Orderly options (first ++ second) := by
  refine ⟨fun path member => ?_, firstOrderly.sourcesFirst.append
    (secondOrderly.sourcesFirst.mono (List.nil_subset _))⟩
  rcases List.mem_append.1 member with early | late
  · exact firstOrderly.admitted path early
  · exact secondOrderly.admitted path late

theorem orderly_flatMap {α : Type} {items : List α} {files : α → List Path}
    (each : ∀ item ∈ items, Orderly options (files item)) :
    Orderly options (items.flatMap files) := by
  induction items with
  | nil => exact orderly_nil
  | cons item rest ih =>
      rw [List.flatMap_cons]
      exact (each item List.mem_cons_self).append
        (ih fun other member => each other (List.mem_cons_of_mem item member))

/-- The sources of a script stand before it, and stand for no other files. -/
theorem orderly_sourceFiles {place : Path} (rooted : place.IsRooted) :
    Orderly options (sourceFiles place) := by
  have admitted : ∀ path ∈ sourceFiles place, Admitted options path := by
    intro path member
    obtain ⟨source, among, rfl⟩ := List.mem_map.1 member
    exact admitted_exchange rooted among
  refine ⟨admitted, sourcesFirst_of_sourceFiles_eq_nil (fun path member => ?_) []⟩
  have pathRooted := (admitted path member).rooted
  obtain ⟨source, among, rfl⟩ := List.mem_map.1 member
  exact sourceFiles_of_suffix pathRooted.normal (Extension.isTypeScript_of_mem_sources among)
    (Extension.text_suffix_appendTo _ _)

theorem orderly_spelled {place : Path} (rooted : place.IsRooted) :
    Orderly options (spelled options place) := by
  have sources : Orderly options (sourceFiles place) := orderly_sourceFiles rooted
  constructor
  · intro path member
    rcases mem_spelled_iff.1 member with source | ⟨rfl, admits⟩
    · exact sources.admitted path source
    · exact admitted_self rooted admits
  · rw [spelled_eq]
    apply sources.sourcesFirst.append
    split
    · exact ⟨fun _ source member => by simpa using member, trivial⟩
    · trivial

theorem orderly_appended {place : Path} (rooted : place.IsRooted) :
    Orderly options (appended options place) := by
  constructor
  · intro path member
    obtain ⟨extension, among, rfl⟩ := List.mem_map.1 member
    exact admitted_appendTo rooted among
  · unfold appended implied
    have step {extension : Extension} (known : extension ≠ .unknown) {seen : List Path}
        (within : ∀ source ∈ extension.sources, source.appendTo place ∈ seen) :=
      mem_of_mem_sourceFiles_appendTo rooted.normal known within
    cases options.allowJs with
    | false =>
        exact ⟨step (by decide) (by simp [Extension.sources]),
          step (by decide) (by simp [Extension.sources]),
          step (by decide) (by simp [Extension.sources]), trivial⟩
    | true =>
        exact ⟨step (by decide) (by simp [Extension.sources]),
          step (by decide) (by simp [Extension.sources]),
          step (by decide) (by simp [Extension.sources]),
          step (by decide) (by simp [Extension.sources]),
          step (by decide) (by simp [Extension.sources]), trivial⟩

theorem orderly_indexes {directory : Path} (rooted : directory.IsRooted) :
    Orderly options (indexes options directory) :=
  orderly_appended (isRooted_join_name rooted (by decide))

theorem orderly_entryFiles {target : Path} (rooted : target.IsRooted) :
    Orderly options (entryFiles options target) :=
  ((orderly_spelled rooted).append (orderly_appended rooted)).append (orderly_indexes rooted)

theorem orderly_directoryFiles (host : Host) {directory : Path} (rooted : directory.IsRooted) :
    Orderly options (directoryFiles host options directory) := by
  apply Orderly.append _ (orderly_indexes rooted)
  apply orderly_flatMap
  intro entry _
  exact orderly_entryFiles (isRooted_normalize (isAbsolute_join rooted.absolute ⟨entry.2⟩))

theorem orderly_placeFiles (host : Host) (leniency : Leniency) (asDirectory : Bool)
    {place : Path} (rooted : place.IsRooted) :
    Orderly options (placeFiles host options leniency asDirectory place) := by
  unfold placeFiles
  apply Orderly.append
  · split
    · exact orderly_nil
    · apply (orderly_spelled rooted).append
      split
      · exact orderly_nil
      · exact orderly_appended rooted
  · split
    · exact orderly_directoryFiles host rooted
    · exact orderly_nil

theorem isRooted_place {importer : Path} (directory : importer.directory.isAbsolute = true)
    (specifier : Text) : (place importer specifier).IsRooted :=
  isRooted_normalize (isAbsolute_join directory ⟨specifier⟩)

theorem orderly_candidates (host : Host) {importer : Path}
    (directory : importer.directory.isAbsolute = true) (specifier : Text) :
    Orderly options (candidates host options importer specifier) :=
  orderly_placeFiles host _ _ (isRooted_place directory specifier)

/-! ## What is found -/

/-- A file that a resolution may end at: an admitted path none of whose sources is a file,
if it is a text. -/
structure Attainable (host : Host) (options : Options) (path : Path) : Prop where
  admitted : Admitted options path
  isFile : host.isFile path = true
  sourceless : path.IsText → ∀ source ∈ sourceFiles path, host.isFile source = false

theorem attainable_of_resolve {host : Host} {importer : Path} {specifier : Text}
    {found : Resolved} (directory : importer.directory.isAbsolute = true)
    (resolved : (resolve host options importer specifier).value = some found) :
    Attainable host options found.path := by
  obtain ⟨-, first, -⟩ := find?_candidates_of_resolve host options resolved
  have orderly : Orderly options (candidates host options importer specifier) :=
    orderly_candidates host directory specifier
  exact ⟨orderly.admitted found.path (List.mem_of_find?_eq_some first), List.find?_some first,
    orderly.sourcesFirst.not_isFile (List.forall_mem_nil _) first⟩

end Resolution

end Relink
