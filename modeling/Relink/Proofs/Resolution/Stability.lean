import Relink.Proofs.Resolution.Ways

/-!
# Resolving written specifiers

The specifier that is written for a resolved file leads back to this file, unless the file is a
`.ts` beside which there is an `.mts` or `.d.mts` of the same name: then it leads there, and
stays there.  Two files that resolution finds for one importer never share a specifier.  Stray
bytes break both where endings are exchanged, for this is done in the text of a path.
-/

namespace Relink

namespace Resolution

open Relink.Path Specifier

variable {host : Host} {options : Options} {importer : Path}

/-! ## Leading back -/

/-- No stray bytes are in a path whose ending is exchanged when its specifier is resolved: a
source file is written with the runtime ending, and a script stands for its sources. -/
def SpelledAsText (path : Path) : Prop :=
  sourceEnding <:+ path.text ∨ (Extension.ofPath path).isJavaScript = true → path.IsText

/-- The specifier of a file resolves to the first file that the place it leads to stands for. -/
theorem value_resolve_toFile {target start found : Path}
    (directory : importer.directory.isAbsolute = true) (absolute : target.isAbsolute = true)
    (below : ¬ target.names <+: importer.directory.names)
    (leads : place importer (toFile importer target) = start)
    (first : (spelled options start).find? host.isFile = some found) :
    (resolve host options importer (toFile importer target)).value =
      some ⟨found, toFile importer target, Extension.ofPath found⟩ := by
  have asFile : namesDirectory (toFile importer target) = false :=
    namesDirectory_toFile directory absolute below
  rw [value_resolve_of_isRelative host options (isRelative_toFile importer target), candidates,
    leads, asFile]
  simp [placeFiles, List.find?_append, first]

/-- An attainable file with a known extension is the first that its own path stands for. -/
theorem find?_spelled_of_attainable {path : Path} (attainable : Attainable host options path)
    (asText : SpelledAsText path) (known : Extension.ofPath path ≠ .unknown) :
    (spelled options path).find? host.isFile = some path := by
  have admits : options.admits (Extension.ofPath path) = true :=
    attainable.admitted.admits known
      (Extension.text_suffix_ofPath attainable.admitted.rooted.normal)
  have self : [path].find? host.isFile = some path := by simp [attainable.isFile]
  unfold spelled
  simp only
  split
  · -- A script is asked for after its sources, none of which is a file.
    rename_i script
    have noSource : (sourceFiles path).find? host.isFile = none := by
      rw [List.find?_eq_none]
      intro source member
      simp [attainable.sourceless (asText (Or.inr script)) source member]
    have scripts : options.allowJs = true := by
      cases extension : Extension.ofPath path <;>
        simp_all [Options.admits, Extension.isJavaScript, Extension.isTypeScript]
    rw [← sourceFiles, List.find?_append, noSource, scripts, if_pos rfl, self, Option.none_or]
  · rename_i notScript
    rw [if_pos (by simpa [Options.admits, notScript] using admits), self]

/-- The places above the importer are no files, so that no file there has to be asked for. -/
theorem not_prefix_of_isFile (directory : importer.directory.isAbsolute = true)
    (clear : ∀ above ∈ importer.directory.normalize.ancestors, host.isFile above = false)
    {path : Path} (rooted : path.IsRooted) (isFile : host.isFile path = true) :
    ¬ path.names <+: importer.directory.names := by
  intro above
  have member : path ∈ importer.directory.normalize.ancestors := by
    rw [normalize_eq_fromRoot directory, ancestors_fromRoot fun _ => isName_of_mem_names,
      List.mem_reverse, rooted.eq_fromRoot]
    exact List.mem_map_of_mem ((List.mem_inits _ _).2 above)
  simp [clear path member] at isFile

/-- The specifier of a file leads to the path with the name in its runtime spelling, if a text can
tell the way. -/
theorem exists_place_toFile {target : Path}
    (directory : importer.directory.isAbsolute = true) (rooted : target.IsRooted)
    (told : IsTold importer.directory target)
    (below : ¬ target.names <+: importer.directory.names) :
    ∃ (above : Letters) (name : Text), target = ⟨above ++ .char '/' :: Letters.ofText name⟩ ∧
      place importer (toFile importer target) =
        ⟨above ++ .char '/' :: Letters.ofText (toRuntime name)⟩ := by
  obtain ⟨front, name, isName, spelled⟩ := exists_makeRelative_eq directory rooted.absolute below
  obtain ⟨above, leads⟩ := exists_normalize_join_slash directory front
  have way := (normalize_join_makeRelative_iff (Or.inl ⟨directory, rooted.absolute⟩)).2 told
  have relative := isRelative_makeRelative (importer.directory.relative target)
  rw [spelled] at way relative
  rw [rooted.normal, leads name isName relative] at way
  have alsoRelative := isRelative_toRuntime relative
  rw [toRuntime_append_slash] at alsoRelative
  refine ⟨above, name, way.symm, ?_⟩
  rw [place, toFile, spelled, toRuntime_append_slash]
  exact leads _ (isName_toRuntime isName) alsoRelative

theorem sourceEnding_suffix_text_iff (above : Letters) (name : Text) :
    sourceEnding <:+ (⟨above ++ .char '/' :: Letters.ofText name⟩ : Path).text ↔
      sourceEnding <:+ name := by
  simpa [Path.text] using
    Text.suffix_append_mark_iff (show '/' ∉ sourceEnding by decide) (Letters.shown above) name

/-- A path that keeps its spelling is led to by its specifier. -/
theorem place_toFile_of_not_suffix {target : Path}
    (directory : importer.directory.isAbsolute = true) (rooted : target.IsRooted)
    (told : IsTold importer.directory target) (below : ¬ target.names <+: importer.directory.names)
    (kept : ¬ sourceEnding <:+ target.text) : place importer (toFile importer target) = target := by
  obtain ⟨above, name, rfl, leads⟩ := exists_place_toFile directory rooted told below
  rw [sourceEnding_suffix_text_iff] at kept
  rw [leads, toRuntime_of_not_suffix kept]

/-- The specifier of a source file leads to the script of its name. -/
theorem place_toFile_of_source {base : Path}
    (directory : importer.directory.isAbsolute = true)
    (rooted : (Extension.ts.appendTo base).IsRooted)
    (told : IsTold importer.directory (Extension.ts.appendTo base))
    (below : ¬ (Extension.ts.appendTo base).names <+: importer.directory.names) :
    place importer (toFile importer (Extension.ts.appendTo base)) =
      Extension.mjs.appendTo base := by
  obtain ⟨above, name, spelled, leads⟩ := exists_place_toFile directory rooted told below
  have ends : sourceEnding <:+ (Extension.ts.appendTo base).text :=
    Extension.text_suffix_appendTo .ts base
  rw [spelled, sourceEnding_suffix_text_iff] at ends
  obtain ⟨stem, rfl⟩ := ends
  have shape : Extension.ts.appendTo ⟨above ++ .char '/' :: Letters.ofText stem⟩ =
      ⟨above ++ .char '/' :: Letters.ofText (stem ++ sourceEnding)⟩ := by
    simp [Extension.appendTo, Extension.text, sourceEnding]
  obtain rfl := Extension.appendTo_injective (spelled.trans shape.symm)
  rw [leads, toRuntime_append_source]
  simp [Extension.appendTo, Extension.text, runtimeEnding]

/-- A file whose path keeps its spelling is found again by its specifier. -/
theorem value_resolve_toFile_of_attainable
    (directory : importer.directory.isAbsolute = true)
    (clear : ∀ above ∈ importer.directory.normalize.ancestors, host.isFile above = false)
    {path : Path} (attainable : Attainable host options path)
    (told : IsTold importer.directory path) (asText : SpelledAsText path)
    (known : Extension.ofPath path ≠ .unknown) (kept : ¬ sourceEnding <:+ path.text) :
    (resolve host options importer (toFile importer path)).value =
      some ⟨path, toFile importer path, Extension.ofPath path⟩ :=
  have rooted := attainable.admitted.rooted
  have below := not_prefix_of_isFile directory clear rooted attainable.isFile
  value_resolve_toFile directory rooted.absolute below
    (place_toFile_of_not_suffix directory rooted told below kept)
    (find?_spelled_of_attainable attainable asText known)

/-! ## Source files and their runtime spelling -/

/-- A text with the source ending is some text with the extension behind it. -/
theorem exists_appendTo_of_suffix {path : Path} (isText : path.IsText)
    (ends : sourceEnding <:+ path.text) :
    ∃ base : Path, base.IsText ∧ path = Extension.ts.appendTo base := by
  obtain ⟨stem, spelled⟩ := ends
  refine ⟨.ofText stem, isText_ofText stem, ?_⟩
  rw [← isText, ← spelled]
  simp [Extension.appendTo, Extension.text, sourceEnding]

section Source

variable {base : Path} (rooted : (Extension.ts.appendTo base).IsRooted) (isText : base.IsText)
  (known : Extension.ofPath (Extension.ts.appendTo base) ≠ .unknown)

include rooted isText known

/-- With another extension in the place of `.ts` a source file has this one, or a longer one of
the same kind. -/
theorem ofPath_appendTo_of_source {new : Extension} (newKnown : new ≠ .unknown) :
    (new.appendTo base).IsRooted ∧
      (Extension.ofPath (new.appendTo base) = new ∨
        new.isTypeScript = true ∧
          (Extension.ofPath (new.appendTo base)).isTypeScript = true) := by
  have ends := Extension.text_suffix_appendTo .ts base
  have stem : Extension.ts.dropFrom (Extension.ts.appendTo base) = base := by
    rw [Extension.dropFrom_appendTo, isText]
  have exchanged := Extension.isRooted_exchange ends newKnown rooted
  have extension := Extension.ofPath_exchange ends newKnown rooted.normal (by decide) known
  rw [stem] at exchanged extension
  exact ⟨exchanged, extension⟩

/-- Another file of source text beside a source file is attainable. -/
theorem attainable_appendTo_of_source {new : Extension} (typed : new.isTypeScript = true)
    (isFile : host.isFile (new.appendTo base) = true) :
    Attainable host options (new.appendTo base) ∧
      Extension.ofPath (new.appendTo base) ≠ .unknown := by
  obtain ⟨newRooted, extension⟩ := ofPath_appendTo_of_source rooted isText known
    (Extension.ne_unknown_of_isTypeScript typed)
  have newKnown : Extension.ofPath (new.appendTo base) ≠ .unknown := by
    rcases extension with same | ⟨-, also⟩
    · rw [same]
      exact Extension.ne_unknown_of_isTypeScript typed
    · exact Extension.ne_unknown_of_isTypeScript also
  refine ⟨⟨⟨newRooted, new, admits_of_isTypeScript options typed,
    Extension.text_suffix_appendTo _ _, Or.inr newKnown⟩, isFile, fun _ => ?_⟩, newKnown⟩
  rw [sourceFiles_of_suffix newRooted.normal typed (Extension.text_suffix_appendTo _ _)]
  exact List.forall_mem_nil _

/-- The script of a source file stands for the module, the declarations and the source of its
name, in this order. -/
theorem spelled_script_of_source :
    spelled options (Extension.mjs.appendTo base) =
      [Extension.mts, .dmts, .ts].map (·.appendTo base) ++
        if options.allowJs then [Extension.mjs.appendTo base] else [] := by
  obtain ⟨-, extension⟩ := ofPath_appendTo_of_source rooted isText known
    (show Extension.mjs ≠ .unknown by decide)
  have script : Extension.ofPath (Extension.mjs.appendTo base) = .mjs :=
    extension.resolve_right (by simp [Extension.isTypeScript])
  have stem : .ofText base.text = base := isText
  simp [spelled, script, Extension.isJavaScript, Extension.sources, stem]

end Source

theorem not_source_suffix_of_mem {extension : Extension}
    (member : extension ∈ [Extension.mts, .dmts]) (path : Path) :
    ¬ sourceEnding <:+ (extension.appendTo path).text := by
  intro ends
  have short : sourceEnding.length ≤ extension.text.length := by
    simp only [List.mem_cons, List.not_mem_nil, or_false] at member
    rcases member with rfl | rfl <;> decide
  have within := List.suffix_of_suffix_length_le ends
    (Extension.text_suffix_appendTo extension path) short
  simp only [List.mem_cons, List.not_mem_nil, or_false] at member
  rcases member with rfl | rfl <;> revert within <;> decide

section Beside

variable {base : Path} (directory : importer.directory.isAbsolute = true)
  (clear : ∀ above ∈ importer.directory.normalize.ancestors, host.isFile above = false)
  (attainable : Attainable host options (Extension.ts.appendTo base)) (isText : base.IsText)
  (known : Extension.ofPath (Extension.ts.appendTo base) ≠ .unknown)

include directory clear attainable isText known

/-- The specifier of a source file leads to the first file among those of its name. -/
theorem value_resolve_toFile_of_source {found : Path}
    (first : ([Extension.mts, .dmts, .ts].map (·.appendTo base)).find? host.isFile =
      some found) :
    (resolve host options importer (toFile importer (Extension.ts.appendTo base))).value =
      some ⟨found, toFile importer (Extension.ts.appendTo base), Extension.ofPath found⟩ := by
  have rooted := attainable.admitted.rooted
  have below := not_prefix_of_isFile directory clear rooted attainable.isFile
  have told := rooted.isTold directory ((Extension.isText_appendTo_iff .ts base).2 isText)
  apply value_resolve_toFile directory rooted.absolute below
    (place_toFile_of_source directory rooted told below)
  rw [spelled_script_of_source rooted isText known, List.find?_append, first, Option.some_or]

/-- The specifier of the module or the declarations beside a source file leads there. -/
theorem value_resolve_toFile_of_beside {new : Extension} (member : new ∈ [Extension.mts, .dmts])
    (isFile : host.isFile (new.appendTo base) = true) :
    ∃ found, (resolve host options importer (toFile importer (new.appendTo base))).value =
      some found ∧ found.path = new.appendTo base := by
  have typed : new.isTypeScript = true := by
    simp only [List.mem_cons, List.not_mem_nil, or_false] at member
    rcases member with rfl | rfl <;> rfl
  have beside : Attainable host options (new.appendTo base) ∧ _ :=
    attainable_appendTo_of_source attainable.admitted.rooted isText known typed isFile
  obtain ⟨newAttainable, newKnown⟩ := beside
  have newIsText := (Extension.isText_appendTo_iff new base).2 isText
  have told := newAttainable.admitted.rooted.isTold directory newIsText
  exact ⟨_, value_resolve_toFile_of_attainable directory clear newAttainable told
    (fun _ => newIsText) newKnown (not_source_suffix_of_mem member _), rfl⟩

end Beside

/-! ## Files that share a specifier -/

/-- Files that share a specifier are one, or one is a source file and the other a script, with
one name but for the endings. -/
theorem eq_or_endings_of_toFile_eq {first second : Path}
    (directory : importer.directory.isAbsolute = true)
    (firstRooted : first.IsRooted) (secondRooted : second.IsRooted)
    (firstTold : IsTold importer.directory first) (secondTold : IsTold importer.directory second)
    (same : toFile importer first = toFile importer second) :
    first = second ∨
      ∃ base : Path, (first = Extension.ts.appendTo base ∧ second = Extension.mjs.appendTo base) ∨
        (first = Extension.mjs.appendTo base ∧ second = Extension.ts.appendTo base) := by
  have firstLeads :=
    (normalize_join_makeRelative_iff (Or.inl ⟨directory, firstRooted.absolute⟩)).2 firstTold
  have secondLeads :=
    (normalize_join_makeRelative_iff (Or.inl ⟨directory, secondRooted.absolute⟩)).2 secondTold
  rw [firstRooted.normal] at firstLeads
  rw [secondRooted.normal] at secondLeads
  rcases eq_or_endings_of_toRuntime_eq same with equal | ⟨stem, ⟨source, script⟩ | ⟨script, source⟩⟩
  · exact Or.inl (by rw [← firstLeads, equal, secondLeads])
  · have relative := isRelative_makeRelative (importer.directory.relative first)
    rw [source] at relative firstLeads
    rw [script] at secondLeads
    obtain ⟨base, spells⟩ := exists_normalize_join_append directory relative
    exact Or.inr ⟨base, Or.inl ⟨firstLeads.symm.trans (spells sourceEnding (by simp)),
      secondLeads.symm.trans (spells runtimeEnding (by simp))⟩⟩
  · have relative := isRelative_makeRelative (importer.directory.relative second)
    rw [source] at relative secondLeads
    rw [script] at firstLeads
    obtain ⟨base, spells⟩ := exists_normalize_join_append directory relative
    exact Or.inr ⟨base, Or.inr ⟨firstLeads.symm.trans (spells runtimeEnding (by simp)),
      secondLeads.symm.trans (spells sourceEnding (by simp))⟩⟩

/-- A script is not attainable beside its source, if its path is a text. -/
theorem not_source_and_script {base : Path}
    (source : Attainable host options (Extension.ts.appendTo base))
    (script : Attainable host options (Extension.mjs.appendTo base))
    (asText : Extension.ofPath (Extension.mjs.appendTo base) = .mjs →
      (Extension.mjs.appendTo base).IsText) : False := by
  have isScript : Extension.ofPath (Extension.mjs.appendTo base) = .mjs :=
    script.admitted.ofPath_of_mjs (Extension.text_suffix_appendTo .mjs base)
  have isText := asText isScript
  have member : Extension.ts.appendTo base ∈ sourceFiles (Extension.mjs.appendTo base) := by
    rw [sourceFiles, isScript, Extension.dropFrom_appendTo,
      (Extension.isText_appendTo_iff .mjs base).1 isText]
    simp [Extension.sources]
  have isFile := source.isFile
  simp [script.sourceless isText _ member] at isFile

/-! ## Main results -/

/-- The specifier written for a resolved file resolves again, if no stray bytes are in the way of
an exchange.  It leads back to the file, unless the file is a `.ts` with an `.mts`, or else a
`.d.mts`, beside it: then it leads to that one.  The specifier of the file it leads to leads
there again. -/
theorem resolve_toFile_settles {specifier : Text} {first : Resolved}
    (absolute : importer.isAbsolute = true) (notRoot : importer.components ≠ [.root])
    (clear : ∀ above ∈ importer.directory.normalize.ancestors, host.isFile above = false)
    (resolved : (resolve host options importer specifier).value = some first)
    (known : first.extension ≠ .unknown) (asText : SpelledAsText first.path) :
    ∃ second,
      (resolve host options importer (toFile importer first.path)).value = some second ∧
      ((second.path = first.path ∧
          ∀ stem, first.path = Extension.ts.appendTo stem →
            host.isFile (Extension.mts.appendTo stem) = false ∧
              host.isFile (Extension.dmts.appendTo stem) = false) ∨
        (∃ stem, first.path = Extension.ts.appendTo stem ∧
          host.isFile (Extension.mts.appendTo stem) = true ∧
            second.path = Extension.mts.appendTo stem) ∨
        (∃ stem, first.path = Extension.ts.appendTo stem ∧
          host.isFile (Extension.mts.appendTo stem) = false ∧
            host.isFile (Extension.dmts.appendTo stem) = true ∧
              second.path = Extension.dmts.appendTo stem)) ∧
      ∃ third,
        (resolve host options importer (toFile importer second.path)).value = some third ∧
          third.path = second.path := by
  have directory := isAbsolute_directory absolute notRoot
  have attainable : Attainable host options first.path :=
    attainable_of_resolve directory resolved
  have firstKnown : Extension.ofPath first.path ≠ .unknown := by
    -- A resolution tells the extension of the path it found.
    obtain ⟨-, -, extension⟩ := find?_candidates_of_resolve host options resolved
    rwa [← extension]
  by_cases ends : sourceEnding <:+ first.path.text
  · obtain ⟨base, isText, shape⟩ := exists_appendTo_of_suffix (asText (Or.inl ends)) ends
    rw [shape] at attainable firstKnown ⊢
    have leads (found : Path)
        (isFirst : ([Extension.mts, .dmts, .ts].map (·.appendTo base)).find? host.isFile =
          some found) :
        (resolve host options importer (toFile importer (Extension.ts.appendTo base))).value =
          some ⟨found, toFile importer (Extension.ts.appendTo base), Extension.ofPath found⟩ :=
      value_resolve_toFile_of_source directory clear attainable isText firstKnown isFirst
    have stays (new : Extension) (member : new ∈ [Extension.mts, .dmts])
        (isFile : host.isFile (new.appendTo base) = true) :
        ∃ third, (resolve host options importer (toFile importer (new.appendTo base))).value =
          some third ∧ third.path = new.appendTo base :=
      value_resolve_toFile_of_beside directory clear attainable isText firstKnown member isFile
    -- The three files are asked for in this order, and the last of them is there.
    cases isModule : host.isFile (Extension.mts.appendTo base) with
    | true =>
        have second := leads (Extension.mts.appendTo base) (by simp [isModule])
        exact ⟨_, second, Or.inr (Or.inl ⟨base, rfl, isModule, rfl⟩), stays .mts (by simp) isModule⟩
    | false =>
        cases isDeclaration : host.isFile (Extension.dmts.appendTo base) with
        | true =>
            have second := leads (Extension.dmts.appendTo base) (by simp [isModule, isDeclaration])
            exact ⟨_, second, Or.inr (Or.inr ⟨base, rfl, isModule, isDeclaration, rfl⟩),
              stays .dmts (by simp) isDeclaration⟩
        | false =>
            have again := leads (Extension.ts.appendTo base)
              (by simp [isModule, isDeclaration, attainable.isFile])
            refine ⟨_, again, Or.inl ⟨rfl, ?_⟩, _, again, rfl⟩
            intro stem same
            obtain rfl := Extension.appendTo_injective same
            exact ⟨isModule, isDeclaration⟩
  · have told := isTold_of_resolve directory resolved known
    have again :=
      value_resolve_toFile_of_attainable directory clear attainable told asText firstKnown ends
    refine ⟨_, again, Or.inl ⟨rfl, ?_⟩, _, again, rfl⟩
    intro stem shape
    rw [shape] at ends
    exact absurd (Extension.text_suffix_appendTo .ts stem) ends

/-- A source file with a module of the same name beside it. -/
def twins : Host :=
  (Files.ofList [(.ofString "/src/lib.ts", none), (.ofString "/src/lib.mts", none)]).host

theorem resolve_toFile_settles_twins :
    ∃ second third,
      (resolve twins .default (.ofString "/src/app.ts")
        (toFile (.ofString "/src/app.ts") (.ofString "/src/lib.ts"))).value = some second ∧
      second.path = .ofString "/src/lib.mts" ∧
      (resolve twins .default (.ofString "/src/app.ts")
        (toFile (.ofString "/src/app.ts") second.path)).value = some third ∧
      third.path = second.path := by
  have clear : ∀ above ∈ (Path.ofString "/src/app.ts").directory.normalize.ancestors,
      twins.isFile above = false := by
    have directory : (Path.ofString "/src/app.ts").directory.normalize =
        fromRoot ["src".toList] := by decide
    rw [directory, ancestors_fromRoot (by decide)]
    decide
  have resolved : (resolve twins .default (.ofString "/src/app.ts") "./lib".toList).value =
      some ⟨.ofString "/src/lib.ts", "./lib".toList, .ts⟩ := by decide
  have isModule : twins.isFile (.ofString "/src/lib.mts") = true := by decide
  have spelling : Path.ofString "/src/lib.ts" = Extension.ts.appendTo (.ofString "/src/lib") := by
    decide
  have stemOf (stem : Path) (shape : Path.ofString "/src/lib.ts" = Extension.ts.appendTo stem) :
      Extension.mts.appendTo stem = .ofString "/src/lib.mts" := by
    obtain rfl := Extension.appendTo_injective (spelling.symm.trans shape)
    decide
  obtain ⟨second, leads, outcome, third, again, stays⟩ :=
    resolve_toFile_settles (by decide) (by decide) clear resolved (by decide) fun _ => by decide
  refine ⟨second, third, leads, ?_, again, stays⟩
  rcases outcome with ⟨-, alone⟩ | ⟨stem, shape, -, path⟩ | ⟨stem, shape, noModule, -⟩
  · have noModule := (alone _ spelling).1
    rw [stemOf _ spelling, isModule] at noModule
    cases noModule
  · rw [path, stemOf stem shape]
  · rw [stemOf stem shape, isModule] at noModule
    cases noModule

/-- In a directory with stray bytes a source file has a specifier that leads nowhere: what it
stands for is looked for where the text of the directory leads. -/
theorem not_resolve_toFile_settles :
    ∃ host : Host,
      (∀ above ∈ (inStray "app.ts").directory.normalize.ancestors, host.isFile above = false) ∧
      (resolve host .default (inStray "app.ts") "./lib".toList).value =
        some ⟨inStray "lib.ts", "./lib".toList, .ts⟩ ∧
      toFile (inStray "app.ts") (inStray "lib.ts") = "./lib.mjs".toList ∧
      (resolve host .default (inStray "app.ts") "./lib.mjs".toList).value = none := by
  refine ⟨(Files.ofList [(inStray "lib.ts", none)]).host, ?_, by decide, by decide, by decide⟩
  have directory : (inStray "app.ts").directory.normalize = fromRoot [[.stray [0xff]]] := by
    decide
  rw [directory, ancestors_fromRoot (by decide)]
  decide

/-- Two files that one importer resolves specifiers to have different specifiers, if texts can
tell the ways to them and no stray bytes are in an `.mjs` among them. -/
theorem path_eq_of_toFile_eq {specifier other : Text} {first second : Resolved}
    (absolute : importer.isAbsolute = true) (notRoot : importer.components ≠ [.root])
    (firstResolved : (resolve host options importer specifier).value = some first)
    (secondResolved : (resolve host options importer other).value = some second)
    (firstTold : IsTold importer.directory first.path)
    (secondTold : IsTold importer.directory second.path)
    (firstAsText : Extension.ofPath first.path = .mjs → first.path.IsText)
    (secondAsText : Extension.ofPath second.path = .mjs → second.path.IsText)
    (same : toFile importer first.path = toFile importer second.path) :
    first.path = second.path := by
  have directory := isAbsolute_directory absolute notRoot
  have firstAttainable : Attainable host options first.path :=
    attainable_of_resolve directory firstResolved
  have secondAttainable : Attainable host options second.path :=
    attainable_of_resolve directory secondResolved
  rcases eq_or_endings_of_toFile_eq directory firstAttainable.admitted.rooted
    secondAttainable.admitted.rooted firstTold secondTold same with
    equal | ⟨base, ⟨source, script⟩ | ⟨script, source⟩⟩
  · exact equal
  · rw [source] at firstAttainable
    rw [script] at secondAttainable secondAsText
    exact (not_source_and_script firstAttainable secondAttainable secondAsText).elim
  · rw [script] at firstAttainable firstAsText
    rw [source] at secondAttainable
    exact (not_source_and_script secondAttainable firstAttainable firstAsText).elim

/-- A source file with a script beside it, which has the same runtime spelling. -/
def scriptBeside : Host :=
  (Files.ofList [(.ofString "/src/lib.ts", none), (.ofString "/src/lib.mjs", none)]).host

/-- Options under which scripts are found too. -/
def scripts : Options :=
  { Options.default with allowJs := true }

theorem path_eq_of_toFile_eq_script :
    ∃ first second,
      (resolve scriptBeside scripts (.ofString "/src/app.ts") "./lib".toList).value =
        some first ∧
      (resolve scriptBeside scripts (.ofString "/src/app.ts") "./lib.mjs".toList).value =
        some second ∧
      first.path = second.path := by
  have first : (resolve scriptBeside scripts (.ofString "/src/app.ts") "./lib".toList).value =
      some ⟨.ofString "/src/lib.ts", "./lib".toList, .ts⟩ := by decide
  have second :
      (resolve scriptBeside scripts (.ofString "/src/app.ts") "./lib.mjs".toList).value =
        some ⟨.ofString "/src/lib.ts", "./lib.mjs".toList, .ts⟩ := by decide
  exact ⟨_, _, first, second,
    path_eq_of_toFile_eq (by decide) (by decide) first second (by decide) (by decide)
      (by decide) (by decide) (by decide)⟩

/-- Two files may share a specifier if the name of a directory is a stray byte.  The specifier
`./.` stands for the directory with an ending behind its name, and this name is shown as another
one.  And a script is found although its source is beside it. -/
theorem not_path_eq_of_toFile_eq :
    (∃ host : Host,
      (resolve host .default (inStray "app.ts") "./.".toList).value =
        some ⟨Extension.ts.appendTo ⟨[.char '/', .stray [0xff]]⟩, "./.".toList, .unknown⟩ ∧
      (resolve host .default (inStray "app.ts") "../\ufffd".toList).value =
        some ⟨.ofString "/\ufffd.ts", "../\ufffd".toList, .ts⟩ ∧
      toFile (inStray "app.ts") (Extension.ts.appendTo ⟨[.char '/', .stray [0xff]]⟩) =
        toFile (inStray "app.ts") (.ofString "/\ufffd.ts") ∧
      Extension.ts.appendTo ⟨[.char '/', .stray [0xff]]⟩ ≠ .ofString "/\ufffd.ts") ∧
      ∃ host : Host,
        (resolve host scripts (inStray "app.ts") "./lib".toList).value =
          some ⟨inStray "lib.ts", "./lib".toList, .ts⟩ ∧
        (resolve host scripts (inStray "app.ts") "./lib.mjs".toList).value =
          some ⟨inStray "lib.mjs", "./lib.mjs".toList, .mjs⟩ ∧
        toFile (inStray "app.ts") (inStray "lib.ts") =
          toFile (inStray "app.ts") (inStray "lib.mjs") ∧
        inStray "lib.ts" ≠ inStray "lib.mjs" := by
  refine ⟨⟨(Files.ofList [(Extension.ts.appendTo ⟨[.char '/', .stray [0xff]]⟩, none),
      (.ofString "/\ufffd.ts", none)]).host, by decide, by decide, by decide, by decide⟩,
    (Files.ofList [(inStray "lib.ts", none), (inStray "lib.mjs", none)]).host,
    by decide, by decide, by decide, by decide⟩

end Resolution

end Relink
