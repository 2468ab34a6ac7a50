import Mathlib.Data.List.Dedup
import Mathlib.Data.List.Perm.Subperm
import Relink.Config.Load
import Relink.Proofs.Path.Rooted

/-!
# Visits of configuration files

Loading visits one path after the other.  A visit either ends the loading, or it goes on to
the path of the file that the one at hand extends.  All visits but the last are at regular
files of different places, so that there is at most one visit more than there are files.
The loading ends at a place it has passed exactly if the trail of extended files returns to
one.
-/

namespace Relink

namespace FileSystem

/-- The number of regular files that take different steps. -/
def fileCount (system : FileSystem) : Nat :=
  (system.files.map Path.components).dedup.length

theorem components_place_mem_files {system : FileSystem} {path : Path} {text : Text}
    (readable : system.read path = .ok text) :
    (system.place path).components ∈ system.files.map Path.components := by
  obtain ⟨place, isFile, isPlace⟩ := system.canonical_of_read readable
  rw [FileSystem.place, isPlace, Option.getD_some]
  exact List.mem_map_of_mem isFile

end FileSystem

namespace Config

variable {system : FileSystem}

/-! ## Single visits -/

/-- What a visit comes to: the end of the loading, or a configuration and the path of the
file that it extends. -/
inductive Visit
  | ended (outcome : Except LoadError Config)
  | wentOn (config : Config) (next : Path)

/-- The visit of a path behind the places `passed`. -/
def visit (system : FileSystem) (passed : List Path) (path : Path) : Visit :=
  if passed.any (·.same (system.place path)) then
    .ended (.error (.cycle (system.place path)))
  else
    match system.read path with
    | .error cause => .ended (.error (.unreadable path cause))
    | .ok text =>
        match parse text with
        | .error cause => .ended (.error (.malformed path cause))
        | .ok config =>
            match config.base with
            | none => .ended (.ok config)
            | some base =>
                match basePath? path base with
                | none => .ended (.error .noParent)
                | some next => .wentOn config next

/-- Loading is one visit, and then the loading of the file that is extended. -/
theorem loadAfter_eq (passed : List Path) (path : Path) :
    loadAfter system passed path =
      match visit system passed path with
      | .ended outcome => outcome
      | .wentOn config next =>
          (loadAfter system (system.place path :: passed) next).map config.onTopOf := by
  rw [loadAfter, visit]
  split
  · rename_i seen
    rw [if_pos seen]
  · rename_i fresh
    rw [if_neg (by simp [fresh])]
    split
    · rename_i cause unreadable
      simp [unreadable]
    · rename_i text readable
      simp only [readable]
      cases parse text with
      | error cause => rfl
      | ok config =>
          cases named : config.base with
          | none => simp only [named]
          | some base =>
              simp only [named]
              cases basePath? path base with
              | none => rfl
              | some next =>
                  dsimp only
                  cases loadAfter system (system.place path :: passed) next <;> rfl

/-- What the file at a path says, if it can be read and parsed. -/
def configAt? (system : FileSystem) (path : Path) : Option Config :=
  (system.read path).toOption.bind fun text => (parse text).toOption

/-- The path of the file that the file at a path extends. -/
def extended? (system : FileSystem) (path : Path) : Option Path :=
  (configAt? system path).bind fun config => config.base.bind (basePath? path)

theorem basePath?_ne_none {path : Path} {text : Text} (readable : system.read path = .ok text)
    (base : Text) : basePath? path base ≠ none := by
  obtain ⟨step, member, notRoot⟩ := system.step_of_read readable
  simpa [basePath?] using Path.parent?_ne_none member notRoot

/-- What a visit can come to.  A file that can be read has a parent, so that the base it
names has a path. -/
theorem visit_cases (system : FileSystem) (passed : List Path) (path : Path) :
    (passed.any (·.same (system.place path)) = true ∧
        visit system passed path = .ended (.error (.cycle (system.place path)))) ∨
      (passed.any (·.same (system.place path)) = false ∧
        ((∃ cause, system.read path = .error cause ∧
            visit system passed path = .ended (.error (.unreadable path cause))) ∨
          (∃ text cause, system.read path = .ok text ∧ parse text = .error cause ∧
            visit system passed path = .ended (.error (.malformed path cause))) ∨
          (∃ config, configAt? system path = some config ∧ config.base = none ∧
            visit system passed path = .ended (.ok config)) ∨
          ∃ config next, configAt? system path = some config ∧
            config.base.bind (basePath? path) = some next ∧
              visit system passed path = .wentOn config next)) := by
  unfold visit configAt?
  cases seen : passed.any (·.same (system.place path)) with
  | true => exact Or.inl ⟨rfl, rfl⟩
  | false =>
      refine Or.inr ⟨rfl, ?_⟩
      cases readable : system.read path with
      | error cause => exact Or.inl ⟨cause, rfl, rfl⟩
      | ok text =>
          right
          cases parsed : parse text with
          | error cause => exact Or.inl ⟨text, cause, rfl, parsed, by simp [parsed]⟩
          | ok config =>
              right
              cases named : config.base with
              | none => exact Or.inl ⟨config, by simp [Except.toOption, parsed, named]⟩
              | some base =>
                  right
                  obtain ⟨next, leads⟩ :=
                    Option.ne_none_iff_exists'.1 (basePath?_ne_none readable base)
                  exact ⟨config, next, by simp [Except.toOption, parsed, named, leads]⟩

/-! ## Trails -/

/-- The path that is met after a number of steps from a file to the file it extends.  The
files met before can all be read and parsed. -/
def trailAt? (system : FileSystem) (path : Path) : Nat → Option Path
  | 0 => some path
  | number + 1 => (extended? system path).bind fun next => trailAt? system next number

/-- After a number of steps a place is met again. -/
def Returns (system : FileSystem) (path : Path) (number : Nat) : Prop :=
  ∃ earlier < number, ∃ first again, trailAt? system path earlier = some first ∧
    trailAt? system path number = some again ∧
      (system.place first).same (system.place again) = true

/-- After a number of steps a place is met again, or one of those passed before. -/
def Blocked (system : FileSystem) (passed : List Path) (path : Path) (number : Nat) : Prop :=
  Returns system path number ∨
    ∃ last, trailAt? system path number = some last ∧
      passed.any (·.same (system.place last)) = true

@[simp] theorem trailAt?_zero (path : Path) : trailAt? system path 0 = some path := rfl

theorem trailAt?_succ {path next : Path} (leads : extended? system path = some next)
    (number : Nat) : trailAt? system path (number + 1) = trailAt? system next number := by
  simp [trailAt?, leads]

theorem not_returns_zero (path : Path) : ¬ Returns system path 0 := by
  rintro ⟨earlier, before, -⟩
  exact absurd before (Nat.not_lt_zero earlier)

@[simp] theorem blocked_nil_iff {path : Path} {number : Nat} :
    Blocked system [] path number ↔ Returns system path number := by
  simp [Blocked]

theorem blocked_zero_iff {passed : List Path} {path : Path} :
    Blocked system passed path 0 ↔ passed.any (·.same (system.place path)) = true := by
  simp [Blocked, not_returns_zero]

/-- A trail is blocked behind its first file as the rest of it is with this file passed. -/
theorem blocked_succ_iff {passed : List Path} {path next : Path}
    (leads : extended? system path = some next) (number : Nat) :
    Blocked system passed path (number + 1) ↔
      Blocked system (system.place path :: passed) next number := by
  unfold Blocked Returns
  simp only [trailAt?_succ leads, List.any_cons, Bool.or_eq_true]
  constructor
  · rintro (⟨earlier, before, first, again, isFirst, isAgain, same⟩ | ⟨last, isLast, passes⟩)
    · cases earlier with
      | zero =>
          obtain rfl := Option.some.inj isFirst
          exact Or.inr ⟨again, isAgain, Or.inl same⟩
      | succ earlier =>
          rw [trailAt?_succ leads] at isFirst
          exact Or.inl ⟨earlier, Nat.lt_of_succ_lt_succ before, first, again, isFirst, isAgain,
            same⟩
    · exact Or.inr ⟨last, isLast, Or.inr passes⟩
  · rintro (⟨earlier, before, first, again, isFirst, isAgain, same⟩ | ⟨last, isLast, same | passes⟩)
    · exact Or.inl ⟨earlier + 1, Nat.succ_lt_succ before, first, again,
        by rw [trailAt?_succ leads, isFirst], isAgain, same⟩
    · exact Or.inl ⟨0, Nat.succ_pos number, path, last, rfl, isLast, same⟩
    · exact Or.inr ⟨last, isLast, passes⟩

/-! ## Runs -/

/-- Loading the file at a path behind the places `passed` visits certain paths, one after the
other, and comes to an outcome. -/
inductive Loads (system : FileSystem) :
    List Path → Path → List Path → Except LoadError Config → Prop
  | ended {passed path outcome} (visited : visit system passed path = .ended outcome) :
      Loads system passed path [path] outcome
  | wentOn {passed path config next visits outcome}
      (visited : visit system passed path = .wentOn config next)
      (rest : Loads system (system.place path :: passed) next visits outcome) :
      Loads system passed path (path :: visits) (outcome.map config.onTopOf)

theorem extended?_of_wentOn {passed : List Path} {path next : Path} {config : Config}
    (visited : visit system passed path = .wentOn config next) :
    passed.any (·.same (system.place path)) = false ∧ configAt? system path = some config ∧
      extended? system path = some next := by
  rcases visit_cases system passed path with
    ⟨-, ended⟩ | ⟨fresh, ⟨_, -, ended⟩ | ⟨_, _, -, -, ended⟩ | ⟨_, -, -, ended⟩ |
      ⟨config', next', holds, leads, wentOn⟩⟩
  · simp [visited] at ended
  · simp [visited] at ended
  · simp [visited] at ended
  · simp [visited] at ended
  · simp only [visited, Visit.wentOn.injEq] at wentOn
    obtain ⟨rfl, rfl⟩ := wentOn
    exact ⟨fresh, holds, by simp [extended?, holds, leads]⟩

theorem exists_text_of_configAt? {path : Path} {config : Config}
    (holds : configAt? system path = some config) :
    ∃ text, system.read path = .ok text ∧ parse text = .ok config := by
  unfold configAt? at holds
  obtain ⟨text, readable, parsed⟩ := Option.bind_eq_some_iff.1 holds
  refine ⟨text, ?_, ?_⟩
  · cases read : system.read path <;> simp_all [Except.toOption]
  · cases outcome : parse text <;> simp_all [Except.toOption]

/-- Loading runs to an end: each visit that goes on takes one file from those not passed. -/
theorem exists_loads (system : FileSystem) (passed : List Path) (path : Path) :
    ∃ visits, Loads system passed path visits (loadAfter system passed path) := by
  rw [loadAfter_eq]
  cases visited : visit system passed path with
  | ended outcome => exact ⟨[path], .ended visited⟩
  | wentOn config next =>
      obtain ⟨fresh, holds, -⟩ := extended?_of_wentOn visited
      obtain ⟨text, readable, -⟩ := exists_text_of_configAt? holds
      have fewer := FileSystem.length_unvisited_lt readable fresh
      obtain ⟨visits, rest⟩ := exists_loads system (system.place path :: passed) next
      exact ⟨path :: visits, .wentOn visited rest⟩
termination_by (system.unvisited passed).length

section Runs

variable {passed visits : List Path} {path : Path} {outcome : Except LoadError Config}

theorem Loads.ne_nil (loads : Loads system passed path visits outcome) : visits ≠ [] := by
  cases loads <;> exact List.cons_ne_nil _ _

/-- The visited paths are the first ones of the trail. -/
theorem Loads.trailAt?_eq (loads : Loads system passed path visits outcome) {number : Nat}
    (within : number < visits.length) : trailAt? system path number = visits[number]? := by
  induction loads generalizing number with
  | ended visited =>
      obtain rfl : number = 0 := Nat.lt_one_iff.1 within
      rfl
  | wentOn visited rest ih =>
      cases number with
      | zero => rfl
      | succ number =>
          obtain ⟨-, -, leads⟩ := extended?_of_wentOn visited
          rw [trailAt?_succ leads, List.getElem?_cons_succ]
          exact ih (Nat.lt_of_succ_lt_succ within)

/-- All visits but the last are at regular files, and no two of them at one place. -/
theorem Loads.nodup_places (loads : Loads system passed path visits outcome) :
    (visits.dropLast.map fun visited => (system.place visited).components).Nodup ∧
      ∀ visited ∈ visits.dropLast,
        (system.place visited).components ∈ system.files.map Path.components ∧
          passed.any (·.same (system.place visited)) = false := by
  induction loads with
  | ended visited => simp
  | @wentOn passed path config next visits outcome visited rest ih =>
      obtain ⟨fresh, holds, -⟩ := extended?_of_wentOn visited
      obtain ⟨text, readable, -⟩ := exists_text_of_configAt? holds
      obtain ⟨nodup, others⟩ := ih
      rw [List.dropLast_cons_of_ne_nil rest.ne_nil, List.map_cons, List.nodup_cons]
      refine ⟨⟨?_, nodup⟩, List.forall_mem_cons.2
        ⟨⟨system.components_place_mem_files readable, fresh⟩, ?_⟩⟩
      · intro again
        obtain ⟨other, member, same⟩ := List.mem_map.1 again
        have apart := (others other member).2
        simp [Path.same, same] at apart
      · intro other member
        have apart := (others other member).2
        simp only [List.any_cons, Bool.or_eq_false_iff] at apart
        exact ⟨(others other member).1, apart.2⟩

/-- There is at most one visit more than there are files. -/
theorem Loads.length_le (loads : Loads system passed path visits outcome) :
    visits.length ≤ system.fileCount + 1 := by
  obtain ⟨nodup, files⟩ := loads.nodup_places
  have within : visits.dropLast.map (fun visited => (system.place visited).components) ⊆
      (system.files.map Path.components).dedup := by
    intro components member
    obtain ⟨visited, among, rfl⟩ := List.mem_map.1 member
    exact List.mem_dedup.2 (files visited among).1
  have bound := (nodup.subperm within).length_le
  rw [List.length_map, List.length_dropLast] at bound
  unfold FileSystem.fileCount
  omega

/-- A run ends with the visit of the first file of its trail at which it is blocked, or which
extends no file.  An error is that of this visit. -/
theorem Loads.ending (loads : Loads system passed path visits outcome) :
    ∃ number last before, trailAt? system path number = some last ∧
      (∀ earlier < number, ¬ Blocked system passed path earlier) ∧
      (Blocked system passed path number ↔
        before.any (·.same (system.place last)) = true) ∧
      ∃ result, visit system before last = .ended result ∧
        ∀ error, outcome = .error error ↔ result = .error error := by
  induction loads with
  | @ended passed path outcome visited =>
      exact ⟨0, path, passed, rfl, fun _ before => absurd before (Nat.not_lt_zero _),
        blocked_zero_iff, outcome, visited, fun _ => Iff.rfl⟩
  | @wentOn passed path config next visits outcome visited rest ih =>
      obtain ⟨fresh, -, leads⟩ := extended?_of_wentOn visited
      obtain ⟨number, last, before, isLast, free, blocked, result, ended, same⟩ := ih
      refine ⟨number + 1, last, before, by rw [trailAt?_succ leads, isLast], ?_,
        by rw [blocked_succ_iff leads, blocked], result, ended, ?_⟩
      · intro earlier sooner
        cases earlier with
        | zero => simp [blocked_zero_iff, fresh]
        | succ earlier =>
            rw [blocked_succ_iff leads]
            exact free earlier (Nat.lt_of_succ_lt_succ sooner)
      · intro error
        rw [← same error]
        cases outcome <;> simp [Except.map]

end Runs

end Config

end Relink
