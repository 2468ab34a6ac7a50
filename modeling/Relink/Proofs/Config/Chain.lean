import Relink.Proofs.Config.Visits

/-!
# Chains of configuration files

A chain of files that extend one another, all at different places, is loaded as one
configuration.  Of each option the nearest file that sets it decides, whatever the other
files and the other options say.
-/

namespace Relink

namespace Config

/-! ## Nearest settings -/

/-- The value of a field in the first configuration that sets it. -/
def firstSet {α : Type} (field : RawOptions → Option α) (configs : List Config) : Option α :=
  configs.findSome? fun config => config.compilerOptions.bind field

/-- Each option as the first configuration that sets it does, nothing if no configuration has
compiler options. -/
def nearest (configs : List Config) : Option RawOptions :=
  if configs.all (·.compilerOptions.isNone) then
    none
  else
    some {
      module := firstSet (·.module) configs
      moduleResolution := firstSet (·.moduleResolution) configs
      allowJs := firstSet (·.allowJs) configs
      resolveJsonModule := firstSet (·.resolveJsonModule) configs }

theorem firstSet_cons {α : Type} (field : RawOptions → Option α) (config : Config)
    (rest : List Config) :
    firstSet field (config :: rest) =
      (config.compilerOptions.bind field).or (firstSet field rest) := by
  rw [firstSet, List.findSome?_cons, firstSet]
  cases config.compilerOptions.bind field <;> rfl

theorem firstSet_eq_none {α : Type} (field : RawOptions → Option α) {configs : List Config}
    (blank : configs.all (·.compilerOptions.isNone) = true) : firstSet field configs = none := by
  rw [firstSet, List.findSome?_eq_none_iff]
  intro config member
  have none := List.all_eq_true.1 blank config member
  simp [Option.isNone_iff_eq_none.1 none]

theorem nearest_singleton (config : Config) : nearest [config] = config.compilerOptions := by
  cases given : config.compilerOptions with
  | none => simp [nearest, given]
  | some raw => simp [nearest, firstSet, given]

/-- The nearest settings are those of the first configuration on top of those of the rest. -/
theorem nearest_cons (config : Config) (rest : List Config) :
    nearest (config :: rest) = (config.onTopOf ⟨none, nearest rest⟩).compilerOptions := by
  cases given : config.compilerOptions with
  | none => simp [nearest, firstSet_cons, onTopOf, given]
  | some raw =>
      cases blank : rest.all (·.compilerOptions.isNone) with
      | true => simp [nearest, firstSet_cons, firstSet_eq_none _ blank, onTopOf, given, blank]
      | false => simp [nearest, firstSet_cons, onTopOf, RawOptions.orElse, given, blank]

/-! ## Chains -/

/-- The files from a path on, with what they say, each of which extends the next one and the
last of which extends none. -/
inductive Chain (system : FileSystem) : Path → List (Path × Config) → Prop
  | last {path text config} (readable : system.read path = .ok text)
      (parsed : parse text = .ok config) (alone : config.base = none) :
      Chain system path [(path, config)]
  | link {path text config base next links} (readable : system.read path = .ok text)
      (parsed : parse text = .ok config) (named : config.base = some base)
      (leads : basePath? path base = some next) (rest : Chain system next links) :
      Chain system path ((path, config) :: links)

variable {system : FileSystem} {path : Path} {links : List (Path × Config)}

/-- Behind places that are not on the chain, a chain is loaded as its nearest settings. -/
theorem Chain.loadAfter_eq (chain : Chain system path links) {passed : List Path}
    (fresh : ∀ link ∈ links, passed.any (·.same (system.place link.1)) = false)
    (apart : links.Pairwise fun near far =>
      (system.place near.1).same (system.place far.1) = false) :
    loadAfter system passed path = .ok ⟨none, nearest (links.map Prod.snd)⟩ := by
  induction chain generalizing passed with
  | @last path text config readable parsed alone =>
      have here := fresh _ List.mem_cons_self
      have visited : visit system passed path = .ended (.ok config) := by
        simp [visit, here, readable, parsed, alone]
      obtain ⟨base, compilerOptions⟩ := config
      obtain rfl : base = none := alone
      rw [Config.loadAfter_eq, visited, List.map_singleton, nearest_singleton]
  | @link path text config base next links readable parsed named leads rest ih =>
      rw [List.forall_mem_cons] at fresh
      rw [List.pairwise_cons] at apart
      have visited : visit system passed path = .wentOn config next := by
        simp [visit, fresh.1, readable, parsed, named, leads]
      have others : ∀ link ∈ links,
          (system.place path :: passed).any (·.same (system.place link.1)) = false := by
        intro link member
        rw [List.any_cons, apart.1 link member, fresh.2 link member, Bool.or_false]
      rw [Config.loadAfter_eq, visited]
      simp only [ih others apart.2, List.map_cons, nearest_cons]
      rfl

/-! ## Options of chains -/

/-- A value is blank or the name of something. -/
def Known {α : Type} (names : List (String × α)) (value : Text) : Prop :=
  value.trim = [] ∨ (RawOptions.lookUp? names value.trim).isSome = true

theorem exists_named?_eq_ok_iff {α : Type} {names : List (String × α)}
    (error : Text → OptionError) {value : Option Text} :
    (∃ meaning, RawOptions.named? names error value = .ok meaning) ↔
      ∀ text ∈ value, Known names text := by
  cases value with
  | none => simp [RawOptions.named?]
  | some text =>
      simp only [RawOptions.named?, Option.map_some, Option.mem_some_iff, forall_eq', Known]
      cases trimmed : text.trim with
      | nil => simp
      | cons char rest => cases known : RawOptions.lookUp? names (char :: rest) <;> simp [known]

theorem exists_validate_eq_ok_iff (raw : RawOptions) :
    (∃ options, raw.validate = .ok options) ↔
      (∀ value ∈ raw.module, Known RawOptions.formatNames value) ∧
        ∀ value ∈ raw.moduleResolution, Known RawOptions.strategyNames value := by
  rw [← exists_named?_eq_ok_iff .unsupportedModule,
    ← exists_named?_eq_ok_iff .unsupportedResolution]
  simp only [RawOptions.validate, bind, Except.bind, pure, Except.pure]
  cases RawOptions.named? RawOptions.formatNames .unsupportedModule raw.module with
  | error cause => simp
  | ok format =>
      cases RawOptions.named? RawOptions.strategyNames .unsupportedResolution
          raw.moduleResolution with
      | error cause => simp
      | ok strategy => simp

theorem exists_mapError_eq_ok_iff {α ε δ : Type} (function : ε → δ) (outcome : Except ε α) :
    (∃ value, outcome.mapError function = .ok value) ↔ ∃ value, outcome = .ok value := by
  cases outcome <;> simp [Except.mapError]

/-- A chain of files at different places is loaded as one configuration, which extends none
and has each option as the nearest file that sets it.  Its options are valid exactly if the
nearest names of a module format and of a strategy are known ones. -/
theorem load_chain (chain : Chain system path links)
    (apart : links.Pairwise fun near far =>
      (system.place near.1).same (system.place far.1) = false) :
    load system path = .ok ⟨none, nearest (links.map Prod.snd)⟩ ∧
      loadOptions system path =
        (Options.ofRaw (nearest (links.map Prod.snd))).mapError (.invalidOptions path) ∧
      ((∃ options, loadOptions system path = .ok options) ↔
        (∀ value ∈ firstSet (·.module) (links.map Prod.snd),
            Known RawOptions.formatNames value) ∧
          ∀ value ∈ firstSet (·.moduleResolution) (links.map Prod.snd),
            Known RawOptions.strategyNames value) := by
  have loaded : load system path = .ok ⟨none, nearest (links.map Prod.snd)⟩ :=
    chain.loadAfter_eq (fun _ _ => rfl) apart
  have options : loadOptions system path =
      (Options.ofRaw (nearest (links.map Prod.snd))).mapError (.invalidOptions path) := by
    rw [loadOptions, loaded]
    cases valid : Options.ofRaw (nearest (links.map Prod.snd)) <;> simp [valid, Except.mapError]
  refine ⟨loaded, options, ?_⟩
  rw [options, exists_mapError_eq_ok_iff]
  unfold nearest
  split
  · rename_i blank
    simp [Options.ofRaw, firstSet_eq_none _ blank]
  · rw [Options.ofRaw, exists_validate_eq_ok_iff]

/-- A file that extends another one, whose module format is unknown, and which extends a
third one. -/
def family : FileSystem :=
  .ofFiles
    [(.ofString "/p/near.json",
        ("\x7b\"extends\":\"base\"," ++
          "\"compilerOptions\":\x7b\"module\":\"node16\",\"allowJs\":false\x7d\x7d").toList),
      (.ofString "/p/base.json",
        ("\x7b\"extends\":\"far.json\"," ++
          "\"compilerOptions\":\x7b\"module\":\"x\",\"allowJs\":true\x7d\x7d").toList),
      (.ofString "/p/far.json",
        ("\x7b\"extends\":null," ++
          "\"compilerOptions\":\x7b\"resolveJsonModule\":\"on\"\x7d\x7d").toList)]

theorem load_chain_family :
    load family (.ofString "/p/near.json") =
        .ok ⟨none, some ⟨some "node16".toList, none, some false, some true⟩⟩ ∧
      loadOptions family (.ofString "/p/near.json") =
        .ok ⟨some .node16, none, false, true⟩ := by
  have chain : Chain family (.ofString "/p/near.json")
      [(.ofString "/p/near.json",
          ⟨some "base".toList, some ⟨some "node16".toList, none, some false, none⟩⟩),
        (.ofString "/p/base.json",
          ⟨some "far.json".toList, some ⟨some "x".toList, none, some true, none⟩⟩),
        (.ofString "/p/far.json", ⟨none, some ⟨none, none, none, some true⟩⟩)] :=
    .link rfl (by decide +kernel) rfl (by decide)
      (show Chain family (.ofString "/p/base.json") _ from
        .link rfl (by decide +kernel) rfl (by decide)
          (show Chain family (.ofString "/p/far.json") _ from .last rfl (by decide +kernel) rfl))
  obtain ⟨loaded, options, -⟩ := load_chain chain (by decide)
  exact ⟨loaded.trans (by decide), options.trans (by decide)⟩

end Config

end Relink
