import Mathlib.Data.Nat.Find
import Relink.Proofs.Config.Visits

/-!
# Cycles of configuration files

Loading comes to an end after at most one visit more than there are files.  It fails with a
cycle exactly if the trail of extended files returns to a place, and names the first place it
returns to.  Any other error is that of a file on the trail before it returns.
-/

namespace Relink

namespace Config

variable {system : FileSystem} {path last : Path} {number : Nat}

/-! ## The last visit -/

theorem trailAt?_succ_eq_bind (path : Path) (number : Nat) :
    trailAt? system path (number + 1) = (trailAt? system path number).bind (extended? system) := by
  induction number generalizing path with
  | zero => cases leads : extended? system path <;> simp [trailAt?, leads]
  | succ number ih =>
      cases leads : extended? system path with
      | none => simp [trailAt?, leads]
      | some next => rw [trailAt?_succ leads, trailAt?_succ leads, ih]

/-- A trail ends with a file that extends none. -/
theorem trailAt?_eq_none_of_lt (isLast : trailAt? system path number = some last)
    (alone : extended? system last = none) {later : Nat} (beyond : number < later) :
    trailAt? system path later = none := by
  induction later, beyond using Nat.le_induction with
  | base => rw [trailAt?_succ_eq_bind, isLast, Option.bind_some, alone]
  | succ later _ ih => rw [trailAt?_succ_eq_bind, ih, Option.bind_none]

/-- The visit behind which loading does not go on: the first at which the trail returns to a
place, or else the visit of the file that extends none. -/
structure LastVisit (system : FileSystem) (path : Path) (number : Nat) (last : Path) : Prop where
  isMet : trailAt? system path number = some last
  firstTime : ∀ earlier < number, ¬ Returns system path earlier
  ends : Returns system path number ∨ extended? system last = none

theorem LastVisit.not_lt {other : Nat} {otherLast : Path}
    (visit : LastVisit system path number last)
    (otherVisit : LastVisit system path other otherLast) : ¬ number < other := by
  intro before
  rcases visit.ends with returns | alone
  · exact otherVisit.firstTime number before returns
  · have beyond := trailAt?_eq_none_of_lt visit.isMet alone before
    rw [otherVisit.isMet] at beyond
    cases beyond

theorem LastVisit.unique {other : Nat} {otherLast : Path}
    (visit : LastVisit system path number last)
    (otherVisit : LastVisit system path other otherLast) : number = other ∧ last = otherLast := by
  have same : number = other :=
    Nat.le_antisymm (Nat.le_of_not_lt (otherVisit.not_lt visit))
      (Nat.le_of_not_lt (visit.not_lt otherVisit))
  subst same
  exact ⟨rfl, Option.some.inj (visit.isMet.symm.trans otherVisit.isMet)⟩

theorem extended?_eq_none_of_ended {before : List Path} {result : Except LoadError Config}
    (ended : visit system before last = .ended result)
    (fresh : before.any (·.same (system.place last)) = false) :
    extended? system last = none := by
  rcases visit_cases system before last with
    ⟨seen, -⟩ | ⟨-, ⟨cause, unreadable, -⟩ | ⟨text, cause, readable, malformed, -⟩ |
      ⟨config, holds, alone, -⟩ | ⟨config, next, -, -, wentOn⟩⟩
  · simp [seen] at fresh
  · simp [extended?, configAt?, unreadable, Except.toOption]
  · simp [extended?, configAt?, readable, malformed, Except.toOption]
  · simp [extended?, holds, alone]
  · simp [ended] at wentOn

/-- Loading comes to a last visit, and fails with an error exactly if this visit does. -/
theorem exists_lastVisit (system : FileSystem) (path : Path) :
    ∃ number last before result, LastVisit system path number last ∧
      (Returns system path number ↔ before.any (·.same (system.place last)) = true) ∧
      visit system before last = .ended result ∧
      ∀ error, load system path = .error error ↔ result = .error error := by
  obtain ⟨visits, loads⟩ := exists_loads system [] path
  obtain ⟨number, last, before, isMet, free, blocked, result, ended, same⟩ := loads.ending
  simp only [blocked_nil_iff] at free blocked
  refine ⟨number, last, before, result, ⟨isMet, free, ?_⟩, blocked, ended, same⟩
  cases fresh : before.any (·.same (system.place last)) with
  | true => exact Or.inl (blocked.2 fresh)
  | false => exact Or.inr (extended?_eq_none_of_ended ended fresh)

/-! ## Errors -/

/-- The error of a file that cannot be read or parsed. -/
def fileError? (system : FileSystem) (path : Path) : Option LoadError :=
  match system.read path with
  | .error cause => some (.unreadable path cause)
  | .ok text =>
      match parse text with
      | .error cause => some (.malformed path cause)
      | .ok _ => none

theorem extended?_eq_none_of_fileError? {error : LoadError}
    (wrong : fileError? system path = some error) : extended? system path = none := by
  unfold fileError? at wrong
  unfold extended? configAt?
  split at wrong
  · rename_i cause unreadable
    simp [unreadable, Except.toOption]
  · rename_i text readable
    split at wrong
    · rename_i cause malformed
      simp [readable, malformed, Except.toOption]
    · cases wrong

/-- A visit that ends fails at a place that was passed, or for the file that is visited. -/
theorem result_of_ended {before : List Path} {result : Except LoadError Config}
    (ended : visit system before last = .ended result) :
    (before.any (·.same (system.place last)) = true ∧
        result = .error (.cycle (system.place last))) ∨
      (before.any (·.same (system.place last)) = false ∧
        ∀ error, result = .error error ↔ fileError? system last = some error) := by
  rcases visit_cases system before last with
    ⟨seen, visited⟩ | ⟨fresh, ⟨cause, unreadable, visited⟩ |
      ⟨text, cause, readable, malformed, visited⟩ | ⟨config, holds, -, visited⟩ |
      ⟨config, next, -, -, visited⟩⟩ <;> rw [visited] at ended <;> cases ended
  · exact Or.inl ⟨seen, rfl⟩
  · exact Or.inr ⟨fresh, by simp [fileError?, unreadable]⟩
  · exact Or.inr ⟨fresh, by simp [fileError?, readable, malformed]⟩
  · obtain ⟨text, readable, parsed⟩ := exists_text_of_configAt? holds
    exact Or.inr ⟨fresh, by simp [fileError?, readable, parsed]⟩

/-- What loading comes to is decided by its last visit. -/
theorem LastVisit.load_cases (lastVisit : LastVisit system path number last) :
    (Returns system path number ∧ load system path = .error (.cycle (system.place last))) ∨
      (¬ Returns system path number ∧
        ∀ error, load system path = .error error ↔ fileError? system last = some error) := by
  obtain ⟨other, otherLast, before, result, otherVisit, returns, ended, same⟩ :=
    exists_lastVisit system path
  obtain ⟨rfl, rfl⟩ := lastVisit.unique otherVisit
  rcases result_of_ended ended with ⟨seen, failed⟩ | ⟨fresh, wrong⟩
  · exact Or.inl ⟨returns.2 seen, (same _).2 failed⟩
  · exact Or.inr ⟨by simp [returns, fresh], fun error => (same error).trans (wrong error)⟩

/-- The first return of a trail is the last visit of loading. -/
theorem exists_lastVisit_of_returns (returns : Returns system path number) :
    ∃ first last, LastVisit system path first last ∧ Returns system path first := by
  classical
  have once : ∃ number, Returns system path number := ⟨number, returns⟩
  obtain ⟨-, -, -, last, -, isMet, -⟩ := Nat.find_spec once
  exact ⟨Nat.find once, last,
    ⟨isMet, fun _ before => Nat.find_min once before, Or.inl (Nat.find_spec once)⟩,
    Nat.find_spec once⟩

theorem fileError?_ne_cycle (path place : Path) :
    fileError? system path ≠ some (.cycle place) := by
  unfold fileError?
  split
  · simp
  · split <;> simp

theorem fileError?_ne_noParent (path : Path) : fileError? system path ≠ some .noParent := by
  unfold fileError?
  split
  · simp
  · split <;> simp

/-- An error tells the file it is about. -/
theorem eq_of_fileError?_eq {other : Path} {error : LoadError}
    (wrong : fileError? system path = some error)
    (otherWrong : fileError? system other = some error) : path = other := by
  unfold fileError? at wrong otherWrong
  split at wrong
  · cases wrong
    split at otherWrong
    · simp_all
    · split at otherWrong <;> simp at otherWrong
  · split at wrong
    · cases wrong
      split at otherWrong
      · simp at otherWrong
      · split at otherWrong <;> simp_all
    · cases wrong

/-- The error of a file on the trail is the error of loading, unless the trail returns to a
place before. -/
theorem load_eq_error_of_fileError? {error : LoadError}
    (wrong : fileError? system last = some error)
    (isMet : trailAt? system path number = some last)
    (free : ∀ earlier ≤ number, ¬ Returns system path earlier) :
    load system path = .error error := by
  have lastVisit : LastVisit system path number last :=
    ⟨isMet, fun earlier before => free earlier before.le,
      Or.inr (extended?_eq_none_of_fileError? wrong)⟩
  rcases lastVisit.load_cases with ⟨returns, -⟩ | ⟨-, outcome⟩
  · exact absurd returns (free number le_rfl)
  · exact (outcome error).2 wrong

/-! ## Main result -/

/-- Loading visits the first paths of the trail, at most one more than there are files.  It
fails with a cycle exactly if the trail returns to a place, and names the first place it
returns to.  The error of a file is reported exactly if the trail meets this file before it
returns.  No file is without a parent. -/
theorem load_visits_and_errors (system : FileSystem) (path : Path) :
    (∃ visits, Loads system [] path visits (load system path) ∧
        visits.length ≤ system.fileCount + 1 ∧
        ∀ number < visits.length, trailAt? system path number = visits[number]?) ∧
      ((∃ place, load system path = .error (.cycle place)) ↔
        ∃ number, Returns system path number) ∧
      (∀ number last, trailAt? system path number = some last → Returns system path number →
        (∀ earlier < number, ¬ Returns system path earlier) →
          ∃ error, load system path = .error error ∧ error = .cycle (system.place last) ∧
            error.explanations = [.text
              ("tsconfig extends cycle detected at ".toList ++ (system.place last).text)]) ∧
      (∀ last error, fileError? system last = some error →
        (load system path = .error error ↔
          ∃ number, trailAt? system path number = some last ∧
            ∀ earlier ≤ number, ¬ Returns system path earlier)) ∧
      load system path ≠ .error .noParent := by
  obtain ⟨number, last, -, -, lastVisit, -⟩ := exists_lastVisit system path
  refine ⟨?_, ⟨?_, ?_⟩, ?_, ?_, ?_⟩
  · obtain ⟨visits, loads⟩ := exists_loads system [] path
    exact ⟨visits, loads, loads.length_le, fun _ within => loads.trailAt?_eq within⟩
  · rintro ⟨place, failed⟩
    rcases lastVisit.load_cases with ⟨returns, -⟩ | ⟨-, outcome⟩
    · exact ⟨number, returns⟩
    · exact absurd ((outcome _).1 failed) (fileError?_ne_cycle last place)
  · rintro ⟨number, returns⟩
    obtain ⟨first, last, firstVisit, firstReturns⟩ := exists_lastVisit_of_returns returns
    rcases firstVisit.load_cases with ⟨-, failed⟩ | ⟨free, -⟩
    · exact ⟨_, failed⟩
    · exact absurd firstReturns free
  · intro number last isMet returns firstTime
    have firstVisit : LastVisit system path number last := ⟨isMet, firstTime, Or.inl returns⟩
    rcases firstVisit.load_cases with ⟨-, failed⟩ | ⟨free, -⟩
    · exact ⟨_, failed, rfl, rfl⟩
    · exact absurd returns free
  · intro wrongPath error wrong
    constructor
    · intro failed
      rcases lastVisit.load_cases with ⟨-, outcome⟩ | ⟨free, outcome⟩
      · rw [outcome, Except.error.injEq] at failed
        subst failed
        exact absurd wrong (fileError?_ne_cycle wrongPath _)
      · obtain rfl := eq_of_fileError?_eq ((outcome error).1 failed) wrong
        refine ⟨number, lastVisit.isMet, fun earlier before => ?_⟩
        rcases before.lt_or_eq with sooner | rfl
        · exact lastVisit.firstTime earlier sooner
        · exact free
    · rintro ⟨number, isMet, free⟩
      exact load_eq_error_of_fileError? wrong isMet free
  · intro failed
    rcases lastVisit.load_cases with ⟨-, outcome⟩ | ⟨-, outcome⟩
    · simp [outcome] at failed
    · exact fileError?_ne_noParent last ((outcome _).1 failed)

end Config

end Relink
