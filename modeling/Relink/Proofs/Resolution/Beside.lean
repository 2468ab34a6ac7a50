import Relink.Proofs.Resolution.Candidates
import Relink.Proofs.Resolution.Policy

/-!
# Files beside a directory

A specifier may name a directory by a slash at its end, or by `.` or `..` as its last segment.
Only the slash is looked at: other such specifiers stand first for files beside the directory.
A slash rules these out, but the manifest of the directory can bring them back by an entry that
leads to the directory itself.  An entry that leads into the directory cannot.
-/

namespace Relink

namespace Extension

theorem length_text_le (extension : Extension) : extension.text.length ≤ 6 := by
  cases extension <;> decide

/-- What is taken off a path lies behind its last slash. -/
theorem exists_ending (extension : Extension) (path : Path) :
    ∃ ending, path.text = (extension.dropFrom path).text ++ ending ∧ '/' ∉ ending := by
  unfold dropFrom
  cases found : Text.dropEnding? extension.text path.text with
  | none => exact ⟨[], (List.append_nil _).symm, List.not_mem_nil⟩
  | some stem =>
      exact ⟨extension.text, (Text.eq_append_of_dropEnding? found).trans (by simp),
        fun slash => noSlash_text extension (Letters.mem_ofText.2 slash)⟩

end Extension

namespace Resolution

open Extension

/-- A file beside the directory that a place names: the place itself, or the place with an
extension appended to it or, as its text shows it, put in the place of its own. -/
inductive IsBeside (directory : Path) : Path → Prop
  | itself : IsBeside directory directory
  | appended (extension : Extension) : IsBeside directory (extension.appendTo directory)
  | exchanged (extension : Extension) :
      IsBeside directory (extension.appendTo ((ofPath directory).dropFrom directory))

variable {options : Options} {directory path : Path}

/-! ## Files of the place -/

/-- The files that a place stands for by its own name. -/
def ownFiles (options : Options) (leniency : Leniency) (directory : Path) : List Path :=
  spelled options directory ++ if leniency = .exact then [] else appended options directory

theorem isBeside_of_mem_ownFiles {leniency : Leniency}
    (member : path ∈ ownFiles options leniency directory) : IsBeside directory path := by
  rcases List.mem_append.1 member with bySpelling | byAppending
  · rcases mem_spelled_iff.1 bySpelling with source | ⟨rfl, -⟩
    · obtain ⟨extension, -, rfl⟩ := List.mem_map.1 source
      exact .exchanged extension
    · exact .itself
  · split_ifs at byAppending
    · cases byAppending
    · obtain ⟨extension, -, rfl⟩ := List.mem_map.1 byAppending
      exact .appended extension

/-- A file beside a place is spelled hardly longer than the place. -/
theorem IsBeside.length_le (beside : IsBeside directory path) :
    path.text.length ≤ directory.text.length + 6 := by
  cases beside with
  | itself => omega
  | appended extension =>
      have short := length_text_le extension
      rw [text_appendTo, List.length_append]
      omega
  | exchanged extension =>
      have short := length_text_le extension
      obtain ⟨ending, spelled, -⟩ := exists_ending (ofPath directory) directory
      have whole := congrArg List.length spelled
      simp only [text_appendTo, List.length_append] at whole ⊢
      omega

theorem text_join_index (directory : Path) :
    ∃ behind, (directory.join (.ofString "index")).text = directory.text ++ behind ∧
      5 ≤ behind.length := by
  have noSlash : .char '/' ∉ Letters.ofText "index".toList := by decide
  unfold Path.ofString Path.text
  rw [Path.join_of_not_mem directory noSlash]
  split_ifs
  · exact ⟨_, Letters.shown_append _ _, by decide⟩
  · exact ⟨_, Letters.shown_append _ _, by decide⟩

/-- The index files of a directory do not lie beside it. -/
theorem not_isBeside_of_mem_indexes (member : path ∈ indexes options directory) :
    ¬ IsBeside directory path := by
  intro beside
  obtain ⟨extension, among, rfl⟩ := List.mem_map.1 member
  have atMost := beside.length_le
  have long := two_lt_length_text (ne_unknown_of_admits (admits_of_mem_implied among))
  obtain ⟨behind, spelled, more⟩ := text_join_index directory
  simp only [text_appendTo, spelled, List.length_append] at atMost
  omega

/-! ## Files of entries -/

/-- A path that leads into a directory by what is shown of it. -/
def LeadsInto (directory path : Path) : Prop :=
  directory.text ++ ['/'] <+: path.text

theorem LeadsInto.of_text_eq {longer : Path} {ending : Text} (into : LeadsInto directory path)
    (spelled : longer.text = path.text ++ ending) : LeadsInto directory longer := by
  rw [LeadsInto, spelled]
  exact into.trans (List.prefix_append _ _)

theorem LeadsInto.appendTo (into : LeadsInto directory path) (extension : Extension) :
    LeadsInto directory (extension.appendTo path) :=
  into.of_text_eq (text_appendTo extension path)

/-- What is taken off a path leaves it in the same directory. -/
theorem LeadsInto.dropFrom (into : LeadsInto directory path) (extension : Extension) :
    LeadsInto directory (extension.dropFrom path) := by
  obtain ⟨ending, spelled, noSlash⟩ := exists_ending extension path
  have stem : (extension.dropFrom path).text <+: path.text := ⟨ending, spelled.symm⟩
  rcases List.prefix_or_prefix_of_prefix into stem with within | beyond
  · exact within
  · obtain ⟨cut, parts⟩ := beyond
    obtain ⟨rest, whole⟩ := into
    rcases List.eq_nil_or_concat' cut with rfl | ⟨before, last, rfl⟩
    · exact ⟨[], by rw [← parts, List.append_nil, List.append_nil]⟩
    · -- The ending would begin before the slash behind the directory.
      have isSlash : last = '/' := by
        have same : ((extension.dropFrom path).text ++ before) ++ [last] =
            directory.text ++ ['/'] := by
          simpa using parts
        simpa using (List.append_inj' same rfl).2
      have taken : (before ++ [last]) ++ rest = ending := by
        have parted : (extension.dropFrom path).text ++ ((before ++ [last]) ++ rest) =
            (extension.dropFrom path).text ++ ending := by
          rw [← spelled, ← whole, ← parts]
          simp
        exact List.append_cancel_left parted
      exact absurd (by simp [← taken, isSlash]) noSlash

theorem LeadsInto.not_isBeside (into : LeadsInto directory path) : ¬ IsBeside directory path := by
  have slash (front ending : Text) (extension : Extension)
      (begins : front ++ (ending ++ ['/']) <+: front ++ extension.text) : False := by
    have within := (List.prefix_append_right_inj front).1 begins
    have member : '/' ∈ extension.text := within.subset (by simp)
    exact noSlash_text extension (Letters.mem_ofText.2 member)
  intro beside
  cases beside with
  | itself =>
      have short := into.length_le
      simp only [List.length_append, List.length_singleton] at short
      omega
  | appended extension =>
      rw [LeadsInto, text_appendTo] at into
      exact slash directory.text [] extension into
  | exchanged extension =>
      obtain ⟨ending, spelled, -⟩ := exists_ending (ofPath directory) directory
      apply slash ((ofPath directory).dropFrom directory).text ending extension
      rw [LeadsInto, text_appendTo] at into
      rw [← List.append_assoc, ← spelled]
      exact into

theorem LeadsInto.of_mem_entryFiles {target : Path} (into : LeadsInto directory target)
    (member : path ∈ entryFiles options target) : LeadsInto directory path := by
  simp only [entryFiles, List.mem_append, mem_spelled_iff] at member
  rcases member with ((source | ⟨rfl, -⟩) | behind) | index
  · obtain ⟨extension, -, rfl⟩ := List.mem_map.1 source
    exact (into.dropFrom _).appendTo extension
  · exact into
  · obtain ⟨extension, -, rfl⟩ := List.mem_map.1 behind
    exact into.appendTo extension
  · obtain ⟨extension, -, rfl⟩ := List.mem_map.1 index
    obtain ⟨name, spelled, -⟩ := text_join_index target
    exact (into.of_text_eq spelled).appendTo extension

/-! ## Main result -/

/-- The files that the entries of the manifest of a directory stand for. -/
def entriesFiles (host : Host) (options : Options) (directory : Path) : List Path :=
  (entriesAt host directory).flatMap fun entry =>
    entryFiles options (directory.join (.ofText entry.2)).normalize

variable {host : Host}

theorem find?_placeFiles (mode : Leniency) (asDirectory : Bool) :
    (placeFiles host options mode asDirectory directory).find? host.isFile =
      ((if asDirectory then [] else ownFiles options mode directory).find? host.isFile).or
        (if mode = .directoriesRead then
          ((entriesFiles host options directory).find? host.isFile).or
            ((indexes options directory).find? host.isFile)
        else none) := by
  rw [placeFiles, List.find?_append]
  congr 1
  split_ifs
  · rw [directoryFiles, value_manifest?, List.find?_append]
    rfl
  · rfl

/-- Whether the first file lies beside the directory is told by the files of the place, or where
there are none, by those of the entries. -/
theorem exists_beside_iff (mode : Leniency) (asDirectory : Bool) :
    (∃ path, (placeFiles host options mode asDirectory directory).find? host.isFile = some path ∧
        IsBeside directory path) ↔
      (asDirectory = false ∧ ∃ path ∈ ownFiles options mode directory, host.isFile path = true) ∨
        (mode = .directoriesRead ∧
          (asDirectory = true ∨
            ∀ path ∈ ownFiles options mode directory, host.isFile path = false) ∧
          ∃ path, (entriesFiles host options directory).find? host.isFile = some path ∧
            IsBeside directory path) := by
  rw [find?_placeFiles]
  constructor
  · rintro ⟨path, first, beside⟩
    rcases Option.or_eq_some_iff.1 first with own | ⟨noOwn, later⟩
    · left
      cases asDirectory with
      | true => cases own
      | false => exact ⟨rfl, path, List.mem_of_find?_eq_some own, List.find?_some own⟩
    · right
      split_ifs at later with reads
      refine ⟨reads, ?_, path, ?_, beside⟩
      · cases asDirectory with
        | true => exact Or.inl rfl
        | false => exact Or.inr (by simpa using noOwn)
      · rcases Option.or_eq_some_iff.1 later with entry | ⟨-, index⟩
        · exact entry
        · exact absurd beside (not_isBeside_of_mem_indexes (List.mem_of_find?_eq_some index))
  · rintro (⟨rfl, file, member, isFile⟩ | ⟨reads, noOwn, path, first, beside⟩)
    · have some := List.find?_isSome.2 ⟨file, member, isFile⟩
      obtain ⟨path, first⟩ := Option.isSome_iff_exists.1 some
      have found : path ∈ ownFiles options mode directory := List.mem_of_find?_eq_some first
      exact ⟨path, by simp [first], isBeside_of_mem_ownFiles found⟩
    · have none : (if asDirectory then [] else ownFiles options mode directory).find?
          host.isFile = none := by
        rcases noOwn with rfl | absent
        · rfl
        · cases asDirectory with
          | true => rfl
          | false => simpa using absent
      exact ⟨path, by rw [none, if_pos reads, first]; rfl, beside⟩

/-- A relative specifier resolves to a file beside the directory that it names in two ways.
Without a slash at its end, be it `.` or `..` that ends it, it does so as soon as the place stands
for any such file.  In any case it does so where directories are read, nothing else was found, and
the first file of the manifest entries is such a file.  An entry that leads into the directory
has no such files, so that behind a slash it takes another entry. -/
theorem resolve_beside_iff {importer : Path} {specifier : Text}
    (relative : Specifier.isRelative specifier = true) :
    ((∃ found, (resolve host options importer specifier).value = some found ∧
          IsBeside (place importer specifier) found.path) ↔
        (Specifier.namesDirectory specifier = false ∧
          ∃ path ∈ ownFiles options (leniency host options.strategy importer).value
            (place importer specifier), host.isFile path = true) ∨
        ((leniency host options.strategy importer).value = .directoriesRead ∧
          (Specifier.namesDirectory specifier = true ∨
            ∀ path ∈ ownFiles options (leniency host options.strategy importer).value
              (place importer specifier), host.isFile path = false) ∧
          ∃ path, (entriesFiles host options (place importer specifier)).find? host.isFile =
            some path ∧ IsBeside (place importer specifier) path)) ∧
      (Specifier.namesDirectory specifier = true →
        (∀ entry ∈ entriesAt host (place importer specifier),
          LeadsInto (place importer specifier)
            ((place importer specifier).join (.ofText entry.2)).normalize) →
        ∀ found, (resolve host options importer specifier).value = some found →
          ¬ IsBeside (place importer specifier) found.path) := by
  have resolved : (resolve host options importer specifier).value = _ :=
    value_resolve_of_isRelative host options relative
  unfold candidates at resolved
  generalize place importer specifier = directory at resolved ⊢
  generalize (leniency host options.strategy importer).value = mode at resolved ⊢
  have same : (∃ found, (resolve host options importer specifier).value = some found ∧
        IsBeside directory found.path) ↔
      ∃ path, (placeFiles host options mode (Specifier.namesDirectory specifier) directory).find?
        host.isFile = some path ∧ IsBeside directory path := by
    simp [resolved]
  have beside_iff := same.trans (exists_beside_iff mode (Specifier.namesDirectory specifier))
  refine ⟨beside_iff, fun slash inside found isFound beside => ?_⟩
  rcases beside_iff.1 ⟨found, isFound, beside⟩ with ⟨noSlash, -⟩ | ⟨-, -, path, first, isBeside⟩
  · rw [slash] at noSlash
    cases noSlash
  · obtain ⟨entry, isEntry, member⟩ := List.mem_flatMap.1 (List.mem_of_find?_eq_some first)
    exact ((inside entry isEntry).of_mem_entryFiles member).not_isBeside isBeside

/-- A package whose manifest names the directory of the package as its entry. -/
def selfEntry : Host :=
  (Files.ofList [(.ofString "/p/q.ts", none),
    (.ofString "/p/q/package.json", some "\x7b\"main\":\"./\"\x7d".toList),
    (.ofString "/p/q/index.ts", none)]).host

theorem resolve_beside_iff_selfEntry :
    Specifier.isRelative "./q/".toList = true ∧
      ∃ found, (resolve selfEntry .default (.ofString "/p/app.ts") "./q/".toList).value =
          some found ∧ IsBeside (place (.ofString "/p/app.ts") "./q/".toList) found.path := by
  have relative : Specifier.isRelative "./q/".toList = true := by decide
  have atPlace : place (.ofString "/p/app.ts") "./q/".toList = .ofString "/p/q" := by decide
  have first : (entriesFiles selfEntry .default (.ofString "/p/q")).find? selfEntry.isFile =
      some (.ofString "/p/q.ts") := by decide +kernel
  refine ⟨relative, (resolve_beside_iff relative).1.2 (Or.inr ⟨by decide, Or.inl (by decide), ?_⟩)⟩
  rw [atPlace]
  exact ⟨.ofString "/p/q.ts", first, .appended .ts⟩

/-- Two specifiers that name directories, one by a slash and one by its last segment, resolve to
files beside these directories, although the directories have index files. -/
theorem resolve_beside_directory :
    (resolve selfEntry .default (.ofString "/p/app.ts") "./q/".toList).value =
        some ⟨.ofString "/p/q.ts", "./q/".toList, .ts⟩ ∧
      IsBeside (place (.ofString "/p/app.ts") "./q/".toList) (.ofString "/p/q.ts") ∧
      (resolve (Files.ofList [(.ofString "/p.ts", none), (.ofString "/p/index.ts", none)]).host
          .default (.ofString "/p/q/r/app.ts") "../..".toList).value =
        some ⟨.ofString "/p.ts", "../..".toList, .ts⟩ ∧
      IsBeside (place (.ofString "/p/q/r/app.ts") "../..".toList) (.ofString "/p.ts") := by
  have slashPlace : place (.ofString "/p/app.ts") "./q/".toList = .ofString "/p/q" := by decide
  have dotsPlace : place (.ofString "/p/q/r/app.ts") "../..".toList = .ofString "/p" := by decide
  refine ⟨by decide +kernel, ?_, by decide +kernel, ?_⟩
  · rw [slashPlace]
    exact .appended .ts
  · rw [dotsPlace]
    exact .appended .ts

end Resolution

end Relink
