import Relink.Proofs.Resolution.Candidates
import Relink.Proofs.Resolution.Importers

/-!
# What resolution may end at

Whatever is found is a file of the place that the specifier names, or of the target of a
manifest entry that was followed on the way.  Its path is normal and ends as the options
allow.  The endings of files with a fixed module format are never supplied: such a file is
found only where a name that asks for it was given.
-/

namespace Relink

open Relink.Path

/-- The endings of the files that the options let specifiers stand for. -/
def Options.endings (options : Options) : List String :=
  [".ts", ".tsx", ".mts", ".cts"] ++
    (if options.allowJs then [".js", ".jsx", ".mjs", ".cjs"] else []) ++
      if options.resolveJsonModule then [".json"] else []

namespace Resolution

/-- The endings that are never supplied, each with the endings that ask for it. -/
def reserved : List (String × List String) :=
  [(".mts", [".mjs", ".mts"]), (".cts", [".cjs", ".cts"]), (".mjs", [".mjs"]),
    (".cjs", [".cjs"])]

/-! ## The files of one path -/

/-- A file that a path may stand for under the options. -/
structure Permitted (options : Options) (start path : Path) : Prop where
  normal : path.IsNormal
  ending : ∃ extension, options.admits extension = true ∧ extension.text <:+ path.text
  asked : ∀ pair ∈ reserved, pair.1.toList <:+ path.text →
    ∃ name : Text, start.fileName? = some (Letters.ofText name) ∧
      ∃ asking ∈ pair.2, asking.toList <:+ name

variable {options : Options}

theorem exists_mem_endings {extension : Extension} (admits : options.admits extension = true) :
    ∃ ending ∈ options.endings, ending.toList <:+ extension.text := by
  have typedEnds : extension.isTypeScript = true →
      ∃ ending ∈ [".ts", ".tsx", ".mts", ".cts"], ending.toList <:+ extension.text := by
    cases extension <;> decide
  have scriptEnds : extension.isJavaScript = true →
      ∃ ending ∈ [".js", ".jsx", ".mjs", ".cjs"], ending.toList <:+ extension.text := by
    cases extension <;> decide
  simp only [Options.admits, Bool.or_eq_true, Bool.and_eq_true, decide_eq_true_eq] at admits
  rcases admits with (typed | ⟨script, allowed⟩) | ⟨rfl, allowed⟩
  · obtain ⟨ending, member, ends⟩ := typedEnds typed
    exact ⟨ending, List.mem_append_left _ (List.mem_append_left _ member), ends⟩
  · obtain ⟨ending, member, ends⟩ := scriptEnds script
    rw [Options.endings, if_pos allowed]
    exact ⟨ending, List.mem_append_left _ (List.mem_append_right _ member), ends⟩
  · rw [Options.endings, if_pos allowed]
    exact ⟨".json", List.mem_append_right _ List.mem_cons_self, by decide⟩

theorem exists_fileName? {path : Path} (normal : path.IsNormal)
    (known : Extension.ofPath path ≠ .unknown) :
    ∃ name : Text, path.fileName? = some (Letters.ofText name) ∧
      ∀ ending : Text, .char '/' ∉ Letters.ofText ending → '\ufffd' ∉ ending →
        ending <:+ path.text → ending <:+ name := by
  obtain ⟨name, named, -⟩ := Extension.exists_name_of_ofPath known
  obtain ⟨directory, -, isName, rfl⟩ := normal.exists_directory named
  refine ⟨name, named, fun ending noSlash plain ends => ?_⟩
  rw [Path.text, ← Letters.ofText_suffix_iff plain,
    suffix_letters_join_iff directory isName.noSlash noSlash,
    Letters.ofText_suffix_iff plain, Letters.shown_ofText] at ends
  exact ends

theorem permitted_appendTo {base : Path} (normal : base.IsNormal) {extension : Extension}
    (member : extension ∈ implied options) (start : Path) :
    Permitted options start (extension.appendTo base) := by
  have admits := admits_of_mem_implied member
  refine ⟨Extension.isNormal_appendTo normal (ne_unknown_of_admits admits),
    ⟨extension, admits, Extension.text_suffix_appendTo _ _⟩, ?_⟩
  intro pair isReserved ends
  have apart : ∀ supplied ∈ [Extension.ts, .tsx, .dts, .js, .jsx], ∀ pair ∈ reserved,
      ¬ (supplied.text <:+ pair.1.toList ∨ pair.1.toList <:+ supplied.text) := by decide
  have supplied : extension ∈ [Extension.ts, .tsx, .dts, .js, .jsx] := by
    rcases List.mem_append.1 member with typed | script
    · exact List.mem_append_left [.js, .jsx] typed
    · split at script
      · exact List.mem_append_right [.ts, .tsx, .dts] script
      · cases script
  have overlap := List.suffix_or_suffix_of_suffix
    (Extension.text_suffix_appendTo extension base) ends
  exact absurd overlap (apart extension supplied pair isReserved)

theorem permitted_self {path : Path} (normal : path.IsNormal)
    (admits : options.admits (Extension.ofPath path) = true) : Permitted options path path := by
  refine ⟨normal, ⟨_, admits, Extension.text_suffix_ofPath normal⟩, ?_⟩
  intro pair isReserved ends
  obtain ⟨name, named, within⟩ := exists_fileName? normal (ne_unknown_of_admits admits)
  have itself : ∀ pair ∈ reserved, .char '/' ∉ Letters.ofText pair.1.toList ∧
      '\ufffd' ∉ pair.1.toList ∧ pair.1 ∈ pair.2 := by decide
  obtain ⟨noSlash, plain, asks⟩ := itself pair isReserved
  exact ⟨name, named, pair.1, asks, within _ noSlash plain ends⟩

theorem permitted_exchange {path : Path} (normal : path.IsNormal) {source : Extension}
    (member : source ∈ (Extension.ofPath path).sources) :
    Permitted options path (source.appendTo ((Extension.ofPath path).dropFrom path)) := by
  have script := Extension.isJavaScript_of_mem_sources member
  have typed := Extension.isTypeScript_of_mem_sources member
  have ends := Extension.text_suffix_ofPath normal
  refine ⟨Extension.isNormal_exchange ends (Extension.ne_unknown_of_isTypeScript typed) normal,
    ⟨source, admits_of_isTypeScript options typed, Extension.text_suffix_appendTo _ _⟩, ?_⟩
  intro pair isReserved reservedEnds
  have asks : ∀ script : Extension, ∀ source ∈ script.sources, ∀ pair ∈ reserved,
      source.text <:+ pair.1.toList ∨ pair.1.toList <:+ source.text →
        ∃ asking ∈ pair.2, asking.toList = script.text := by
    intro script
    cases script <;> decide
  have overlap := List.suffix_or_suffix_of_suffix
    (Extension.text_suffix_appendTo source _) reservedEnds
  obtain ⟨asking, among, spelled⟩ := asks _ source member pair isReserved overlap
  obtain ⟨name, named, within⟩ :=
    exists_fileName? normal (Extension.ne_unknown_of_isJavaScript script)
  refine ⟨name, named, asking, among, ?_⟩
  rw [spelled]
  exact within _ (Extension.noSlash_text _) (Extension.plain_text _) ends

theorem permitted_of_mem_appended {base path : Path} (normal : base.IsNormal)
    (member : path ∈ appended options base) (start : Path) : Permitted options start path := by
  obtain ⟨extension, among, rfl⟩ := List.mem_map.1 member
  exact permitted_appendTo normal among start

theorem permitted_of_mem_entryFiles {start path : Path} (normal : start.IsNormal)
    (member : path ∈ entryFiles options start) : Permitted options start path := by
  simp only [entryFiles, List.mem_append, mem_spelled_iff] at member
  rcases member with ((sources | ⟨rfl, admits⟩) | behind) | index
  · obtain ⟨source, among, rfl⟩ := List.mem_map.1 sources
    exact permitted_exchange normal among
  · exact permitted_self normal admits
  · exact permitted_of_mem_appended normal behind start
  · have isName : IsName (Letters.ofText "index".toList) := by decide
    exact permitted_of_mem_appended (normal.join_name isName) index start

/-! ## Where the files come from -/

variable {host : Host}

theorem events_subset_orTry (first second : Traced (Option Path)) :
    first.events ⊆ (orTry first second).events := by
  rw [orTry, Traced.events_bind]
  exact List.subset_append_left _ _

theorem events_subset_orTry_of_eq_none {first : Traced (Option Path)}
    (nothing : first.value = none) (second : Traced (Option Path)) :
    second.events ⊆ (orTry first second).events := by
  rw [orTry, Traced.events_bind, nothing]
  exact List.subset_append_right _ _

/-- Where a file was searched from: one of the entries of a directory was followed there. -/
def Followed (options : Options) (directory : Path) (entries : List (Text × Text))
    (events : List Event) (path : Path) : Prop :=
  ∃ field value, (field, value) ∈ entries ∧
    Event.followed field (directory.join (.ofText value)).normalize ∈ events ∧
      path ∈ entryFiles options (directory.join (.ofText value)).normalize

section Followed

variable {directory path : Path} {entries : List (Text × Text)}

theorem Followed.mono {events more : List Event}
    (followed : Followed options directory entries events path) (within : events ⊆ more) :
    Followed options directory entries more path := by
  obtain ⟨field, value, isEntry, recorded, member⟩ := followed
  exact ⟨field, value, isEntry, within recorded, member⟩

theorem Followed.cons {events : List Event}
    (followed : Followed options directory entries events path) (entry : Text × Text) :
    Followed options directory (entry :: entries) events path := by
  obtain ⟨field, value, isEntry, recorded, member⟩ := followed
  exact ⟨field, value, List.mem_cons_of_mem entry isEntry, recorded, member⟩

theorem followed_of_followEntries
    (found : (followEntries host options directory entries).value = some path) :
    Followed options directory entries (followEntries host options directory entries).events
      path := by
  rw [value_followEntries] at found
  induction entries with
  | nil => simp at found
  | cons entry rest ih =>
      rw [List.flatMap_cons, List.find?_append] at found
      -- The entry is followed first, and the other entries only if it leads nowhere.
      change Followed options directory (entry :: rest)
        (.followed entry.1 (directory.join (.ofText entry.2)).normalize ::
          (orTry (firstFile host (entryFiles options (directory.join (.ofText entry.2)).normalize))
            (followEntries host options directory rest)).events) path
      rcases Option.or_eq_some_iff.1 found with here | ⟨nothing, later⟩
      · exact ⟨entry.1, entry.2, List.mem_cons_self, List.mem_cons_self,
          List.mem_of_find?_eq_some here⟩
      · rw [← value_firstFile] at nothing
        apply ((ih later).cons entry).mono
        exact List.subset_cons_of_subset _ (events_subset_orTry_of_eq_none nothing _)

/-- The entries of the manifest of a directory. -/
def entriesAt (host : Host) (directory : Path) : List (Text × Text) :=
  (manifestAt? host directory).elim [] Manifest.entries

theorem followed_of_inDirectory
    (found : (inDirectory host options directory).value = some path) :
    path ∈ indexes options directory ∨
      Followed options directory (entriesAt host directory)
        (inDirectory host options directory).events path := by
  rw [inDirectory, Traced.value_bind, value_orTry, value_manifest?] at found
  rw [inDirectory, Traced.events_bind, value_manifest?]
  rcases Option.or_eq_some_iff.1 found with entry | ⟨-, index⟩
  · refine Or.inr ((followed_of_followEntries entry).mono ?_)
    exact List.Subset.trans (events_subset_orTry _ _) (List.subset_append_right _ _)
  · rw [value_firstFile] at index
    exact Or.inl (List.mem_of_find?_eq_some index)

theorem followed_of_locate {leniency : Leniency} {asDirectory : Bool} {place : Path}
    (found : (locate host options leniency asDirectory place).value = some path) :
    path ∈ entryFiles options place ∨
      Followed options place (entriesAt host place)
        (locate host options leniency asDirectory place).events path := by
  rw [locate, value_orTry, value_firstFile] at found
  rcases Option.or_eq_some_iff.1 found with file | ⟨nothing, directory⟩
  · left
    have member := List.mem_of_find?_eq_some file
    simp only [entryFiles, List.mem_append]
    split at member
    · simp at member
    · rcases List.mem_append.1 member with spelled | appended
      · exact Or.inl (Or.inl spelled)
      · split at appended
        · simp at appended
        · exact Or.inl (Or.inr appended)
  · split at directory
    · rename_i reads
      rcases followed_of_inDirectory directory with index | followed
      · exact Or.inl (List.mem_append_right _ index)
      · rw [← value_firstFile] at nothing
        rw [locate, if_pos reads]
        exact Or.inr (followed.mono (events_subset_orTry_of_eq_none nothing _))
    · simp at directory

end Followed

/-- Where files are searched from: the place that a specifier names, or the target of an
entry that was followed in the manifest of this place. -/
def IsStart (host : Host) (events : List Event) (place start : Path) : Prop :=
  start = place ∨
    ∃ manifest field value, manifestAt? host place = some manifest ∧
      (field, value) ∈ manifest.entries ∧ start = (place.join (.ofText value)).normalize ∧
        Event.followed field start ∈ events

theorem exists_start_of_resolve {importer : Path} {specifier : Text} {found : Resolved}
    (resolved : (resolve host options importer specifier).value = some found) :
    ∃ start : Path, start.IsNormal ∧ found.path ∈ entryFiles options start ∧
      IsStart host (resolve host options importer specifier).events (place importer specifier)
        start := by
  obtain ⟨relative, first, -⟩ := find?_candidates_of_resolve host options resolved
  rw [candidates, ← value_locate] at first
  rcases followed_of_locate first with member | followed
  · exact ⟨place importer specifier, isNormal_normalize _, member, Or.inl rfl⟩
  · obtain ⟨field, value, isEntry, recorded, member⟩ := followed
    refine ⟨_, isNormal_normalize _, member, Or.inr ?_⟩
    cases read : manifestAt? host (place importer specifier) with
    | none => simp [entriesAt, read] at isEntry
    | some manifest =>
        rw [entriesAt, read, Option.elim_some] at isEntry
        refine ⟨manifest, field, value, rfl, isEntry, rfl, ?_⟩
        rw [resolve, if_pos relative]
        simp only [Traced.events_bind, List.mem_append]
        exact Or.inr (Or.inl recorded)

/-! ## Main result -/

/-- What a specifier resolves to is a file with a normal path and an ending that the options
allow.  An ending that fixes the module format it has only if the path that the search started
from asks for it by name. -/
theorem resolve_permitted {importer : Path} {specifier : Text} {found : Resolved}
    (resolved : (resolve host options importer specifier).value = some found) :
    Specifier.isRelative specifier = true ∧
      host.isFile found.path = true ∧
      found.path.normalize = found.path ∧
      (∃ ending ∈ options.endings, ending.toList <:+ found.path.text) ∧
      ∀ ending asking, (ending, asking) ∈ reserved → ending.toList <:+ found.path.text →
        ∃ (start : Path) (name : Text),
          IsStart host (resolve host options importer specifier).events (place importer specifier)
            start ∧
          start.fileName? = some (Letters.ofText name) ∧
            ∃ other ∈ asking, other.toList <:+ name := by
  obtain ⟨relative, first, -⟩ := find?_candidates_of_resolve host options resolved
  obtain ⟨start, normal, member, isStart⟩ := exists_start_of_resolve resolved
  have permitted : Permitted options start found.path :=
    permitted_of_mem_entryFiles normal member
  obtain ⟨extension, admits, ends⟩ := permitted.ending
  obtain ⟨ending, allowed, endsIn⟩ := exists_mem_endings admits
  refine ⟨relative, List.find?_some first, permitted.normal,
    ⟨ending, allowed, endsIn.trans ends⟩, ?_⟩
  intro ending asking isReserved reservedEnds
  obtain ⟨name, named, asked⟩ := permitted.asked (ending, asking) isReserved reservedEnds
  exact ⟨start, name, isStart, named, asked⟩

/-- A package whose manifest names an ES module script, with the source of this script. -/
def scriptEntry : Host :=
  (Files.ofList [(.ofString "/p/q/package.json", some "\x7b\"main\":\"m.mjs\"\x7d".toList),
    (.ofString "/p/q/m.mts", none)]).host

theorem resolve_permitted_scriptEntry :
    (resolve scriptEntry .default (.ofString "/p/app.ts") "./q".toList).value =
        some ⟨.ofString "/p/q/m.mts", "./q".toList, .mts⟩ ∧
      ∃ (start : Path) (name : Text),
        IsStart scriptEntry
          (resolve scriptEntry .default (.ofString "/p/app.ts") "./q".toList).events
          (place (.ofString "/p/app.ts") "./q".toList) start ∧
        start.fileName? = some (Letters.ofText name) ∧
          ∃ other ∈ [".mjs", ".mts"], other.toList <:+ name := by
  have resolved : (resolve scriptEntry .default (.ofString "/p/app.ts") "./q".toList).value =
      some ⟨.ofString "/p/q/m.mts", "./q".toList, .mts⟩ := by decide +kernel
  have isReserved : (".mts", [".mjs", ".mts"]) ∈ reserved := by decide
  have ends : ".mts".toList <:+ (Path.ofString "/p/q/m.mts").text := by decide
  obtain ⟨-, -, -, -, asked⟩ := resolve_permitted resolved
  exact ⟨resolved, asked _ _ isReserved ends⟩

end Resolution

end Relink
