import Relink.Proofs.Path.Relative
import Relink.Proofs.Resolution.Candidates

/-!
# Ways to resolved files

A resolution begins in the directory of the importer.  The names it adds on its way stand in
texts: in specifiers and manifests, and where an ending is exchanged the whole path is one.  So
a candidate has stray bytes only in names that the directory of the importer has too, and in a
file name that is the name of a directory with an ending behind it.  Hence a text can tell the
way to every resolved file whose extension is known.
-/

namespace Relink

namespace Path

open Component

/-! ## Names that leave others -/

/-- Some names follow others for a while, and are texts from there on. -/
def LeaveAsText (base names : List Letters) : Prop :=
  ∃ kept added, kept <+: base ∧ names = kept ++ added ∧
    ∀ name ∈ added, Letters.ofText name.shown = name

variable {base names : List Letters}

theorem leaveAsText_self (base : List Letters) : LeaveAsText base base :=
  ⟨base, [], List.prefix_rfl, by simp, List.forall_mem_nil _⟩

theorem leaveAsText_nil (base : List Letters) : LeaveAsText base [] :=
  ⟨[], [], List.nil_prefix, rfl, List.forall_mem_nil _⟩

theorem LeaveAsText.concat (leave : LeaveAsText base names) {name : Letters}
    (isText : Letters.ofText name.shown = name) : LeaveAsText base (names ++ [name]) := by
  obtain ⟨kept, added, shared, rfl, texts⟩ := leave
  refine ⟨kept, added ++ [name], shared, List.append_assoc _ _ _, fun other member => ?_⟩
  rcases List.mem_append.1 member with earlier | latest
  · exact texts other earlier
  · rwa [List.mem_singleton.1 latest]

theorem LeaveAsText.dropLast (leave : LeaveAsText base names) :
    LeaveAsText base names.dropLast := by
  obtain ⟨kept, added, shared, rfl, texts⟩ := leave
  rcases List.eq_nil_or_concat' added with rfl | ⟨before, last, rfl⟩
  · refine ⟨kept.dropLast, [], (List.dropLast_prefix kept).trans shared, ?_, texts⟩
    rw [List.append_nil, List.append_nil]
  · refine ⟨kept, before, shared, ?_, fun name member =>
      texts name (List.mem_append_left [last] member)⟩
    rw [← List.append_assoc, List.dropLast_concat]

theorem LeaveAsText.foldl_follow (leave : LeaveAsText base names) {taken : List Component}
    (texts : ∀ step ∈ taken, Letters.ofText step.text = step.letters) :
    LeaveAsText base (taken.foldl follow names) := by
  induction taken generalizing names with
  | nil => exact leave
  | cons step rest ih =>
      have isText := texts step List.mem_cons_self
      refine ih ?_ fun other member => texts other (List.mem_cons_of_mem step member)
      cases step with
      | root => exact leave
      | current => exact leave
      | parent => exact leave.dropLast
      | name letters => exact leave.concat isText

/-- The steps that a text tells are texts. -/
theorem ofText_text_of_mem_stepsOf {text : Text} {step : Component}
    (member : step ∈ stepsOf (Letters.ofText text)) :
    Letters.ofText step.text = step.letters := by
  obtain ⟨segment, among, read⟩ := List.mem_filterMap.1 member
  have whole : ∀ letter ∈ Letters.ofText text, .char letter.shown = letter := by
    rw [← Letters.ofText_shown_iff, Letters.shown_ofText]
  have isText : Letters.ofText segment.shown = segment := by
    rw [Letters.ofText_shown_iff]
    intro letter within
    apply whole letter
    rw [← Text.joinWith_splitOn (.char '/') (Letters.ofText text)]
    exact Text.mem_joinWith among within
  unfold ofSegment? at read
  split at read
  · cases read
  · split at read
    · obtain rfl := Option.some.inj read
      rfl
    · obtain rfl := Option.some.inj read
      exact isText

theorem LeaveAsText.join {directory : Path} (leave : LeaveAsText base directory.names)
    (text : Text) : LeaveAsText base (directory.join (.ofText text)).names := by
  have texts : ∀ step ∈ stepsOf (Letters.ofText text), Letters.ofText step.text = step.letters :=
    fun _ => ofText_text_of_mem_stepsOf
  cases rooted : (.ofText text : Path).isAbsolute with
  | true =>
      rw [Path.join, if_pos rooted]
      exact (leaveAsText_nil base).foldl_follow texts
  | false =>
      rw [names_join rooted]
      exact leave.foldl_follow texts

theorem IsRooted.leaveAsText {path : Path} (rooted : path.IsRooted) (isText : path.IsText)
    (base : List Letters) : LeaveAsText base path.names :=
  ⟨[], path.names, List.nil_prefix, rfl, fun _ => rooted.ofText_shown isText⟩

/-- If names leave those of a directory as texts, a text can tell the way. -/
theorem LeaveAsText.isTold {directory target : Path}
    (directoryAbsolute : directory.isAbsolute = true) (targetAbsolute : target.isAbsolute = true)
    (leave : LeaveAsText directory.names target.names) : IsTold directory target := by
  obtain ⟨kept, added, ⟨more, directoryShape⟩, targetShape, texts⟩ := leave
  obtain ⟨shared, climbed, descended, -, rfl, left⟩ := dropCommon_steps more added
  have dropped : dropCommon (collapse directory.components) (collapse target.components) =
      (steps climbed, steps descended) := by
    have common := dropCommon_append_left (.root :: steps kept) (steps more)
      (steps (shared ++ descended))
    rw [collapse_components directoryAbsolute, collapse_components targetAbsolute,
      ← directoryShape, targetShape, ← left, ← common]
    simp [steps]
  intro step member
  rw [dropped] at member
  obtain ⟨name, among, rfl⟩ := List.mem_map.1 member
  exact texts name (List.mem_append_right shared among)

theorem IsRooted.isTold {directory path : Path} (rooted : path.IsRooted)
    (absolute : directory.isAbsolute = true) (isText : path.IsText) : IsTold directory path :=
  (rooted.leaveAsText isText directory.names).isTold absolute rooted.absolute

end Path

namespace Resolution

open Relink.Path

/-! ## Candidates -/

variable {options : Options} {base : List Letters} {place path : Path}

theorem leaveAsText_of_mem_sourceFiles (rooted : place.IsRooted)
    (member : path ∈ sourceFiles place) : LeaveAsText base path.names := by
  have sources : Orderly Options.default (sourceFiles place) := orderly_sourceFiles rooted
  have pathRooted := (sources.admitted path member).rooted
  obtain ⟨source, -, rfl⟩ := List.mem_map.1 member
  apply pathRooted.leaveAsText
  rw [Extension.isText_appendTo_iff]
  exact Extension.isText_dropFrom (Extension.text_suffix_ofPath rooted.normal)

theorem leaveAsText_of_mem_spelled (rooted : place.IsRooted)
    (leave : LeaveAsText base place.names) (member : path ∈ spelled options place) :
    LeaveAsText base path.names := by
  rcases mem_spelled_iff.1 member with source | ⟨rfl, -⟩
  · exact leaveAsText_of_mem_sourceFiles rooted source
  · exact leave

/-- With an ending behind it a name is another one.  It is a text if its extension is known. -/
theorem leaveAsText_of_mem_appended (rooted : place.IsRooted)
    (leave : LeaveAsText base place.names) (known : Extension.ofPath path ≠ .unknown)
    (member : path ∈ appended options place) : LeaveAsText base path.names := by
  obtain ⟨extension, among, rfl⟩ := List.mem_map.1 member
  have pathRooted := (admitted_appendTo rooted among).rooted
  have endingKnown := ne_unknown_of_admits (admits_of_mem_implied among)
  rcases List.eq_nil_or_concat' place.names with atRoot | ⟨before, last, shape⟩
  · apply pathRooted.leaveAsText
    rw [Extension.isText_appendTo_iff, rooted.eq_fromRoot, atRoot]
    decide
  · obtain ⟨isName, spelling⟩ := rooted.eq_join shape
    have longer := Extension.isName_append_text isName.noSlash endingKnown
    rw [spelling, Extension.appendTo_join _ isName.noSlash] at known ⊢
    obtain ⟨name, named, -⟩ := Extension.exists_name_of_ofPath known
    rw [fileName?_join _ longer, Option.some.injEq] at named
    have beforeLeave := leave.dropLast
    rw [shape, List.dropLast_concat] at beforeLeave
    have beforeNames : ∀ name ∈ before, IsName name := fun name among =>
      isName_of_mem_names (shape ▸ List.mem_append_left [last] among)
    rw [names_join_name _ longer, names_fromRoot beforeNames]
    apply beforeLeave.concat
    rw [named, Letters.shown_ofText]

theorem leaveAsText_of_mem_indexes (rooted : place.IsRooted)
    (leave : LeaveAsText base place.names) (known : Extension.ofPath path ≠ .unknown)
    (member : path ∈ indexes options place) : LeaveAsText base path.names :=
  leaveAsText_of_mem_appended (isRooted_join_name rooted (by decide)) (leave.join "index".toList)
    known member

theorem leaveAsText_of_mem_entryFiles (rooted : place.IsRooted)
    (leave : LeaveAsText base place.names) (known : Extension.ofPath path ≠ .unknown)
    (member : path ∈ entryFiles options place) : LeaveAsText base path.names := by
  simp only [entryFiles, List.mem_append] at member
  rcases member with (isSpelled | isAppended) | isIndex
  · exact leaveAsText_of_mem_spelled rooted leave isSpelled
  · exact leaveAsText_of_mem_appended rooted leave known isAppended
  · exact leaveAsText_of_mem_indexes rooted leave known isIndex

theorem leaveAsText_of_mem_directoryFiles {host : Host} (rooted : place.IsRooted)
    (leave : LeaveAsText base place.names) (known : Extension.ofPath path ≠ .unknown)
    (member : path ∈ directoryFiles host options place) : LeaveAsText base path.names := by
  rcases List.mem_append.1 member with isEntry | isIndex
  · obtain ⟨entry, -, among⟩ := List.mem_flatMap.1 isEntry
    have absolute := isAbsolute_join rooted.absolute ⟨entry.2⟩
    have target : LeaveAsText base (place.join (.ofText entry.2)).normalize.names := by
      rw [names_normalize absolute]
      exact leave.join entry.2
    exact leaveAsText_of_mem_entryFiles (isRooted_normalize absolute) target known among
  · exact leaveAsText_of_mem_indexes rooted leave known isIndex

theorem leaveAsText_of_mem_placeFiles {host : Host} {leniency : Leniency} {asDirectory : Bool}
    (rooted : place.IsRooted) (leave : LeaveAsText base place.names)
    (known : Extension.ofPath path ≠ .unknown)
    (member : path ∈ placeFiles host options leniency asDirectory place) :
    LeaveAsText base path.names := by
  rcases List.mem_append.1 member with isFile | isBelow
  · split at isFile
    · cases isFile
    · rcases List.mem_append.1 isFile with isSpelled | isAppended
      · exact leaveAsText_of_mem_spelled rooted leave isSpelled
      · split at isAppended
        · cases isAppended
        · exact leaveAsText_of_mem_appended rooted leave known isAppended
  · split at isBelow
    · exact leaveAsText_of_mem_directoryFiles rooted leave known isBelow
    · cases isBelow

/-! ## Main result -/

/-- A text can tell the way from an importer to a file that it resolves a specifier to, if the
extension of the file is known. -/
theorem isTold_of_resolve {host : Host} {importer : Path} {specifier : Text} {found : Resolved}
    (directory : importer.directory.isAbsolute = true)
    (resolved : (resolve host options importer specifier).value = some found)
    (known : found.extension ≠ .unknown) : IsTold importer.directory found.path := by
  have attainable : Attainable host options found.path := attainable_of_resolve directory resolved
  obtain ⟨-, first, extension⟩ := find?_candidates_of_resolve host options resolved
  rw [extension] at known
  have atPlace : LeaveAsText importer.directory.names (place importer specifier).names := by
    rw [place, names_normalize (isAbsolute_join directory _)]
    exact (leaveAsText_self _).join specifier
  exact (leaveAsText_of_mem_placeFiles (isRooted_place directory specifier) atPlace known
    (List.mem_of_find?_eq_some first)).isTold directory attainable.admitted.rooted.absolute

end Resolution

end Relink
