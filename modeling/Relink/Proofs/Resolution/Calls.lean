import Relink.Proofs.Path.Course
import Relink.Proofs.Resolution.FirstMatch

/-!
# The calls of a resolution

A search asks whether files exist until one does.  Only manifests are read, each right after it
was found to exist, and the search ends with the call that finds its result.
-/

namespace Relink

/-- Whether a call was answered as the host answers it. -/
def Call.IsAnsweredBy (host : Host) : Call → Prop
  | .isFile path answer => answer = host.isFile path
  | .read path answered => answered = (host.read path).isSome

namespace Traced

@[simp] theorem calls_pure {α : Type} (value : α) : (pure value : Traced α).calls = [] := rfl

@[simp] theorem calls_bind {α β : Type} (first : Traced α) (next : α → Traced β) :
    (first >>= next).calls = first.calls ++ (next first.value).calls := by
  rw [calls, events_bind, List.filterMap_append]
  rfl

@[simp] theorem calls_map {α β : Type} (function : α → β) (result : Traced α) :
    (function <$> result).calls = result.calls := by
  rw [map_eq_pure_bind, calls_bind, calls_pure, List.append_nil]

@[simp] theorem calls_record (event : Event) :
    (Traced.record event).calls = (Event.call? event).toList := by
  cases call : Event.call? event <;> simp [calls, record, call]

end Traced

namespace Resolution

open Relink.Path

variable {host : Host}

/-! ## Searches -/

/-- The calls of a search with its result.  A search asks for files that are missing, and for
manifests, which it reads if they are there; it ends at the first file that it was after. -/
inductive Searched (host : Host) : Option Path → List Call → Prop
  | vain : Searched host none []
  | hit {path : Path} : host.isFile path = true → Searched host (some path) [.isFile path true]
  | missing {result : Option Path} {calls : List Call} {path : Path} :
      host.isFile path = false → Searched host result calls →
        Searched host result (.isFile path false :: calls)
  | manifest {result : Option Path} {calls : List Call} {directory path : Path} :
      path = directory.join Manifest.fileName → host.isFile path = true →
        Searched host result calls →
          Searched host result (.isFile path true :: .read path (host.read path).isSome :: calls)

/-- After a search in vain the next one begins. -/
theorem Searched.append {result : Option Path} {first second : List Call}
    (fruitless : Searched host none first) (next : Searched host result second) :
    Searched host result (first ++ second) := by
  -- The result has to be a variable for the induction; it rules out the case of a hit.
  generalize nothing : (none : Option Path) = earlier at fruitless
  induction fruitless with
  | vain => exact next
  | hit isFile => cases nothing
  | missing notFile _ ih => exact .missing notFile (ih nothing)
  | manifest isManifest isFile _ ih => exact .manifest isManifest isFile (ih nothing)

theorem Searched.bind {α : Type} {first : Traced α} {next : α → Traced (Option Path)}
    (fruitless : Searched host none first.calls)
    (later : Searched host (next first.value).value (next first.value).calls) :
    Searched host (first >>= next).value (first >>= next).calls := by
  rw [Traced.calls_bind, Traced.value_bind]
  exact fruitless.append later

/-! ## The steps of a resolution -/

theorem searched_firstFile (host : Host) (paths : List Path) :
    Searched host (firstFile host paths).value (firstFile host paths).calls := by
  induction paths with
  | nil => exact .vain
  | cons path rest ih =>
      cases isFile : host.isFile path with
      | true =>
          simpa [firstFile, probe, isFile, Event.call?] using
            Searched.hit isFile
      | false =>
          simpa [firstFile, probe, isFile, Event.call?] using
            Searched.missing isFile ih

/-- The second search begins only if the first was in vain. -/
theorem Searched.orTry {first second : Traced (Option Path)}
    (begins : Searched host first.value first.calls)
    (goesOn : Searched host second.value second.calls) :
    Searched host (orTry first second).value (orTry first second).calls := by
  unfold Resolution.orTry
  rw [Traced.value_bind, Traced.calls_bind]
  cases found : first.value with
  | some path => simpa [found] using begins
  | none => exact (found ▸ begins).append goesOn

theorem searched_manifest? (host : Host) (directory : Path) :
    Searched host none (manifest? host directory).calls := by
  unfold manifest?
  cases isFile : host.isFile (directory.join Manifest.fileName) with
  | false =>
      simpa [isFile, Event.call?] using Searched.missing isFile .vain
  | true =>
      -- The manifest is read now, whatever comes of its text.
      have read : Searched host none [.isFile (directory.join Manifest.fileName) true,
          .read (directory.join Manifest.fileName)
            (host.read (directory.join Manifest.fileName)).isSome] := .manifest rfl isFile .vain
      cases text : host.read (directory.join Manifest.fileName) with
      | none => simpa [isFile, text, Event.call?] using read
      | some text' =>
          cases parsed : Manifest.parse? text' <;>
            simpa [isFile, text, parsed, Event.call?] using read

theorem searched_nearestManifest? (host : Host) (directories : List Path) :
    Searched host none (nearestManifest? host directories).calls := by
  induction directories with
  | nil => exact .vain
  | cons directory rest ih =>
      rw [nearestManifest?, Traced.calls_bind]
      apply (searched_manifest? host directory).append
      cases (manifest? host directory).value with
      | none => exact ih
      | some manifest => exact .vain

theorem searched_leniency (host : Host) (strategy : Strategy) (importer : Path) :
    Searched host none (leniency host strategy importer).calls := by
  have walk : Searched host none (isEsmImporter host importer).calls := by
    simpa [isEsmImporter] using searched_nearestManifest? host importer.directory.ancestors
  cases strategy with
  | classic => exact .vain
  | node10 => exact .vain
  | bundler => exact .vain
  | node16 => simpa [leniency] using walk
  | nodeNext => simpa [leniency] using walk

theorem searched_followEntries (host : Host) (options : Options) (directory : Path)
    (entries : List (Text × Text)) :
    Searched host (followEntries host options directory entries).value
      (followEntries host options directory entries).calls := by
  induction entries with
  | nil => exact .vain
  | cons entry rest ih =>
      unfold followEntries
      exact Searched.bind .vain ((searched_firstFile host _).orTry ih)

theorem searched_inDirectory (host : Host) (options : Options) (directory : Path) :
    Searched host (inDirectory host options directory).value
      (inDirectory host options directory).calls :=
  (searched_manifest? host directory).bind
    ((searched_followEntries host options directory _).orTry (searched_firstFile host _))

theorem searched_locate (host : Host) (options : Options) (leniency : Leniency)
    (asDirectory : Bool) (place : Path) :
    Searched host (locate host options leniency asDirectory place).value
      (locate host options leniency asDirectory place).calls := by
  apply (searched_firstFile host _).orTry
  split
  · exact searched_inDirectory host options place
  · exact .vain

theorem calls_resolve_of_not_isRelative (host : Host) (options : Options) (importer : Path)
    {specifier : Text} (notRelative : Specifier.isRelative specifier = false) :
    (resolve host options importer specifier).calls = [] := by
  simp [resolve, notRelative, Event.call?]

theorem searched_resolve (host : Host) (options : Options) (importer : Path) (specifier : Text) :
    Searched host ((resolve host options importer specifier).value.map Resolved.path)
      (resolve host options importer specifier).calls := by
  cases relative : Specifier.isRelative specifier with
  | false =>
      rw [calls_resolve_of_not_isRelative host options importer relative, value_resolve, relative]
      exact .vain
  | true =>
      have search := (searched_leniency host options.strategy importer).append
        (searched_locate host options (leniency host options.strategy importer).value
          (Specifier.namesDirectory specifier) (place importer specifier))
      unfold resolve
      rw [if_pos relative, Traced.calls_bind, Traced.value_bind, Traced.calls_bind,
        Traced.value_bind]
      cases found : (locate host options (leniency host options.strategy importer).value
          (Specifier.namesDirectory specifier) (place importer specifier)).value with
      | none => simpa [found, Event.call?] using search
      | some path => simpa [found, Event.call?] using search

/-! ## What the calls of a search are like -/

section Searched

variable {result : Option Path} {calls : List Call}

theorem Searched.isAnsweredBy (searched : Searched host result calls) :
    ∀ call ∈ calls, call.IsAnsweredBy host := by
  induction searched with
  | vain => simp
  | hit isFile => simp [Call.IsAnsweredBy, isFile]
  | missing notFile _ ih => simpa [Call.IsAnsweredBy, notFile] using ih
  | manifest _ isFile _ ih => simpa [Call.IsAnsweredBy, isFile] using ih

/-- Only manifests are read, each right after it was found to exist. -/
theorem Searched.before_read (searched : Searched host result calls) {before after : List Call}
    {path : Path} {readable : Bool} (cut : calls = before ++ .read path readable :: after) :
    path.fileName? = some (Letters.ofText "package.json".toList) ∧
      ∃ earlier, before = earlier ++ [.isFile path true] := by
  -- The calls before the read grow with the search, so the cases are split on them as well.
  induction searched generalizing before with
  | vain => simp at cut
  | hit isFile => cases before <;> simp at cut
  | missing notFile _ ih =>
      cases before with
      | nil => simp at cut
      | cons call others =>
          obtain ⟨rfl, rest⟩ := List.cons.inj cut
          obtain ⟨named, earlier, rfl⟩ := ih rest
          exact ⟨named, _ :: earlier, rfl⟩
  | manifest isManifest isFile _ ih =>
      rcases before with _ | ⟨call, _ | ⟨next, others⟩⟩
      · simp at cut
      · simp only [List.cons_append, List.nil_append, List.cons.injEq, Call.read.injEq] at cut
        obtain ⟨rfl, ⟨rfl, -⟩, -⟩ := cut
        have isName : IsName Manifest.fileName.letters := by decide
        exact ⟨by rw [isManifest]; exact fileName?_join _ isName, [], rfl⟩
      · simp only [List.cons_append, List.cons.injEq] at cut
        obtain ⟨rfl, rfl, rest⟩ := cut
        obtain ⟨named, earlier, rfl⟩ := ih rest
        exact ⟨named, _ :: _ :: earlier, rfl⟩

/-- A file that is found is the result, or it is read next. -/
theorem Searched.after_isFile (searched : Searched host result calls) {before after : List Call}
    {path : Path} (cut : calls = before ++ .isFile path true :: after) :
    (after = [] ∧ result = some path) ∨
      ∃ readable rest, after = .read path readable :: rest := by
  induction searched generalizing before with
  | vain => simp at cut
  | hit isFile =>
      cases before with
      | nil =>
          simp only [List.nil_append, List.cons.injEq, Call.isFile.injEq, and_true] at cut
          exact Or.inl ⟨cut.2.symm, congrArg some cut.1⟩
      | cons call others => simp at cut
  | missing notFile _ ih =>
      cases before with
      | nil => simp at cut
      | cons call others => exact ih (List.cons.inj cut).2
  | manifest isManifest isFile _ ih =>
      rcases before with _ | ⟨call, _ | ⟨next, others⟩⟩
      · simp only [List.nil_append, List.cons.injEq, Call.isFile.injEq, and_true] at cut
        obtain ⟨rfl, rfl⟩ := cut
        exact Or.inr ⟨_, _, rfl⟩
      · simp at cut
      · simp only [List.cons_append, List.cons.injEq] at cut
        exact ih cut.2.2

theorem Searched.getLast?_eq (searched : Searched host result calls) {path : Path}
    (found : result = some path) : calls.getLast? = some (.isFile path true) := by
  induction searched with
  | vain => cases found
  | hit isFile => simpa using found
  | missing notFile _ ih => simp [List.getLast?_cons, ih found]
  | manifest _ isFile _ ih => simp [List.getLast?_cons, ih found]

end Searched

/-! ## Main result -/

/-- How the calls of a resolution go.  A manifest is read right after it was found; whatever else
is found is the result, and nothing is asked for after it. -/
structure Disciplined (host : Host) (result : Option Resolved) (calls : List Call) : Prop where
  answered : ∀ call ∈ calls, call.IsAnsweredBy host
  reads : ∀ before path readable after, calls = before ++ .read path readable :: after →
    path.fileName? = some (Letters.ofText "package.json".toList) ∧
      ∃ earlier, before = earlier ++ [.isFile path true]
  finds : ∀ before path after, calls = before ++ .isFile path true :: after → after ≠ [] →
    ∃ readable rest, after = .read path readable :: rest
  hit : ∀ found, result = some found → calls.getLast? = some (.isFile found.path true)
  missed : result = none → ∀ before path after, calls = before ++ .isFile path true :: after →
    ∃ readable rest, after = .read path readable :: rest

/-- A resolution keeps to this discipline, and calls nothing for a specifier that is not
relative. -/
theorem disciplined_resolve (host : Host) (options : Options) (importer : Path)
    (specifier : Text) :
    Disciplined host (resolve host options importer specifier).value
        (resolve host options importer specifier).calls ∧
      (Specifier.isRelative specifier = false →
        (resolve host options importer specifier).calls = []) := by
  have searched := searched_resolve host options importer specifier
  refine ⟨⟨searched.isAnsweredBy, fun _ _ _ _ => searched.before_read, ?finds, ?hit, ?missed⟩,
    calls_resolve_of_not_isRelative host options importer⟩
  case finds =>
    intro before path after cut more
    rcases searched.after_isFile cut with ⟨last, -⟩ | read
    · exact absurd last more
    · exact read
  case hit =>
    intro found isFound
    exact searched.getLast?_eq (by rw [isFound, Option.map_some])
  case missed =>
    intro nothing before path after cut
    rcases searched.after_isFile cut with ⟨-, found⟩ | read
    · simp [nothing] at found
    · exact read

end Resolution

end Relink
