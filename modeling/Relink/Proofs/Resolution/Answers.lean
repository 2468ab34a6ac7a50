import Relink.Proofs.Resolution.Calls
import Relink.Proofs.Slots
import Relink.Rewrite

/-!
# What results depend on

A computation that asks a host is determined by the answers to the calls that it records: another
host that answers these alike leads to the same result, on the same way.
-/

namespace Relink

/-- Two hosts answer a call alike. -/
def Call.AnsweredAlike (host other : Host) : Call → Prop
  | .isFile path _ => other.isFile path = host.isFile path
  | .read path _ => other.read path = host.read path

/-- A computation has the same result, on the same way, for every host that answers the calls
that it records alike. -/
def Determined {α : Type} (run : Host → Traced α) : Prop :=
  ∀ host other, (∀ call ∈ (run host).calls, call.AnsweredAlike host other) →
    run other = run host

namespace Determined

variable {α β : Type}

theorem const (result : Traced α) : Determined fun _ => result :=
  fun _ _ _ => rfl

/-- What goes on with a determined value in a determined way is determined. -/
theorem bind {run : Host → Traced α} {next : α → Host → Traced β} (determined : Determined run)
    (goesOn : ∀ value, Determined (next value)) :
    Determined fun host => run host >>= fun value => next value host := by
  intro host other alike
  simp only [Traced.calls_bind, List.forall_mem_append] at alike
  have first : run other = run host := determined host other alike.1
  have second : next (run host).value other = next (run host).value host :=
    goesOn _ host other alike.2
  calc
    (run other >>= fun value => next value other) =
        (run host >>= fun value => next value other) := by rw [first]
    _ = (run host >>= fun value => next value host) := by simp only [Bind.bind, second]

theorem map {run : Host → Traced α} (determined : Determined run) (function : α → β) :
    Determined fun host => function <$> run host := by
  simp only [map_eq_pure_bind]
  exact determined.bind fun value => const (pure (function value))

end Determined

namespace Resolution

/-! ## The steps of a resolution -/

theorem determined_probe (candidate : Path) : Determined fun host => probe host candidate := by
  intro host other alike
  have same : other.isFile candidate = host.isFile candidate :=
    alike (.isFile candidate (host.isFile candidate)) (by simp [probe, Event.call?])
  simp only [probe, same]

theorem determined_firstFile (paths : List Path) :
    Determined fun host => firstFile host paths := by
  induction paths with
  | nil => exact .const _
  | cons candidate rest ih =>
      apply (determined_probe candidate).bind
      intro found
      cases found with
      | true => exact .const _
      | false => exact ih

theorem determined_orTry {first second : Host → Traced (Option Path)}
    (determined : Determined first) (alsoDetermined : Determined second) :
    Determined fun host => orTry (first host) (second host) := by
  apply determined.bind
  intro found
  cases found with
  | some path => exact .const _
  | none => exact alsoDetermined

theorem determined_manifest? (directory : Path) :
    Determined fun host => manifest? host directory := by
  intro host other alike
  have sought : other.isFile (directory.join Manifest.fileName) =
      host.isFile (directory.join Manifest.fileName) :=
    alike (.isFile _ (host.isFile (directory.join Manifest.fileName)))
      (by simp [manifest?, Event.call?])
  cases isFile : host.isFile (directory.join Manifest.fileName) with
  | false => simp only [manifest?, sought, isFile, Bool.false_eq_true, if_false]
  | true =>
      have read : other.read (directory.join Manifest.fileName) =
          host.read (directory.join Manifest.fileName) :=
        alike (.read _ (host.read (directory.join Manifest.fileName)).isSome)
          (by simp [manifest?, isFile, Event.call?])
      simp only [manifest?, sought, isFile, if_true, read]

theorem determined_nearestManifest? (directories : List Path) :
    Determined fun host => nearestManifest? host directories := by
  induction directories with
  | nil => exact .const _
  | cons directory rest ih =>
      apply (determined_manifest? directory).bind
      intro found
      cases found with
      | some manifest => exact .const _
      | none => exact ih

theorem determined_leniency (strategy : Strategy) (importer : Path) :
    Determined fun host => leniency host strategy importer := by
  have esm : Determined fun host => isEsmImporter host importer :=
    (determined_nearestManifest? importer.directory.ancestors).bind fun _ => .const _
  cases strategy with
  | classic => exact .const _
  | node10 => exact .const _
  | bundler => exact .const _
  | node16 => exact esm.bind fun _ => .const _
  | nodeNext => exact esm.bind fun _ => .const _

theorem determined_followEntries (options : Options) (directory : Path)
    (entries : List (Text × Text)) :
    Determined fun host => followEntries host options directory entries := by
  induction entries with
  | nil => exact .const _
  | cons entry rest ih =>
      exact (Determined.const _).bind fun _ => determined_orTry (determined_firstFile _) ih

theorem determined_inDirectory (options : Options) (directory : Path) :
    Determined fun host => inDirectory host options directory :=
  (determined_manifest? directory).bind fun _ =>
    determined_orTry (determined_followEntries options directory _) (determined_firstFile _)

theorem determined_locate (options : Options) (leniency : Leniency) (asDirectory : Bool)
    (place : Path) : Determined fun host => locate host options leniency asDirectory place := by
  apply determined_orTry (determined_firstFile _)
  cases leniency with
  | directoriesRead => exact determined_inDirectory options place
  | extensionsAdded => exact .const _
  | exact => exact .const _

/-- A resolution depends on the host through its calls alone. -/
theorem determined_resolve (options : Options) (importer : Path) (specifier : Text) :
    Determined fun host => resolve host options importer specifier := by
  cases relative : Specifier.isRelative specifier with
  | false =>
      simp only [resolve, relative, Bool.false_eq_true, if_false]
      exact .const _
  | true =>
      simp only [resolve, relative, if_true]
      apply (determined_leniency options.strategy importer).bind
      intro leniency
      apply (determined_locate options leniency _ _).bind
      intro found
      cases found <;> exact .const _

end Resolution

namespace Compilation

variable {α : Type}

/-! ## The steps of a rewriting -/

theorem determined_newSlot? (options : Options) (file : Path) (form : Form) (slot : Literal) :
    Determined fun host => newSlot? ⟨options, host⟩ file form slot := by
  have replacement (specifier : Text) :
      Determined fun host => replacement? ⟨options, host⟩ file specifier := by
    unfold replacement?
    cases Specifier.isRelative specifier with
    | false => exact .const _
    | true =>
        apply (Resolution.determined_resolve options file specifier).bind
        intro found
        cases found <;> exact .const _
  unfold newSlot?
  cases form.specifier? slot with
  | none => exact .const _
  | some specifier => exact (replacement specifier).bind fun _ => .const _

theorem determined_rewriteList {options : Options} {file : Path} {trees : List (Tree α)}
    (each : ∀ tree ∈ trees, Determined fun host => rewrite ⟨options, host⟩ file tree) :
    Determined fun host => rewriteList ⟨options, host⟩ file trees := by
  induction trees with
  | nil => exact .const _
  | cons tree rest ih =>
      obtain ⟨first, others⟩ := List.forall_mem_cons.1 each
      exact first.bind fun _ => (ih others).bind fun _ => .const _

theorem determined_rewrite (options : Options) (file : Path) (tree : Tree α) :
    Determined fun host => rewrite ⟨options, host⟩ file tree := by
  induction tree with
  | node label children ih =>
      exact (determined_rewriteList ih).bind fun _ => .const _
  | request form label slot children ih =>
      apply (determined_newSlot? options file form slot).bind
      intro new
      cases new with
      | some literal => exact .const _
      | none => exact (determined_rewriteList ih).bind fun _ => .const _

/-- Rewriting a file depends on the host through the recorded calls alone. -/
theorem determined_rewriteFile (options : Options) (source : SourceFile α) :
    Determined fun host => rewriteFile ⟨options, host⟩ source :=
  (determined_rewrite options source.path source.program).bind fun _ => .const _

end Compilation

end Relink
