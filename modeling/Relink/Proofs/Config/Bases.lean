import Relink.Proofs.Config.Chain
import Relink.Proofs.Path.FileName

/-!
# Extended files

A configuration names the file that it extends.  A name whose only dot begins it, or which has no
dot, is completed by `.json`, and every other name is taken for a complete one, whatever stands
behind its last dot.
-/

namespace Relink

namespace Config

open Relink.Path

variable {system : FileSystem} {path directory : Path} {base name : Text}

theorem mem_tail_ofText {char : Char} :
    .char char ∈ (Letters.ofText name).tail ↔ char ∈ name.tail := by
  rw [Letters.ofText, ← List.map_tail]
  exact Letters.mem_ofText

theorem basePath?_eq (isParent : path.parent? = some directory) :
    basePath? path base =
      some (directory.join
        (if (.ofText base : Path).extension?.isNone then
          (.ofText base : Path).withExtension (Letters.ofText "json".toList)
        else .ofText base)) := by
  rw [basePath?, isParent]
  rfl

theorem extension?_eq (named : (.ofText base : Path).fileName? = some (Letters.ofText name)) :
    (.ofText base : Path).extension? = (splitName (.char '.') (Letters.ofText name)).2 := by
  rw [extension?, named, Option.bind_some]

/-- A name with a dot behind its first character is a complete one. -/
theorem basePath?_of_dotted (isParent : path.parent? = some directory)
    (named : (.ofText base : Path).fileName? = some (Letters.ofText name))
    (dotted : '.' ∈ name.tail) :
    basePath? path base = some (directory.join (.ofText base)) := by
  have complete := splitName_of_mem (mem_tail_ofText.2 dotted)
  rw [← extension?_eq named] at complete
  rw [basePath?_eq isParent, if_neg (by simpa [← Option.isSome_iff_ne_none] using complete)]

/-- Any other name is completed by `.json`. -/
theorem basePath?_of_undotted (isParent : path.parent? = some directory)
    (named : (.ofText base : Path).fileName? = some (Letters.ofText name))
    (endsInName : name <:+ base) (undotted : '.' ∉ name.tail) :
    basePath? path base = some (directory.join (.ofText (base ++ ".json".toList))) := by
  have incomplete : (.ofText base : Path).extension? = none := by
    rw [extension?_eq named, splitName_of_not_mem (mt mem_tail_ofText.1 undotted)]
  have noSlash : .char '/' ∉ Letters.ofText "json".toList := by decide
  have ends : Letters.ofText name <:+ Letters.ofText base := List.IsSuffix.map _ endsInName
  have completed : (.ofText base : Path).withExtension (Letters.ofText "json".toList) =
      .ofText (base ++ ".json".toList) := by
    rw [withExtension_eq_append named ends (mt mem_tail_ofText.1 undotted) noSlash]
    exact congrArg Path.mk (Letters.ofText_append base ".json".toList).symm
  rw [basePath?_eq isParent, incomplete, completed]
  rfl

/-- A file that extends another one is loaded by loading that one behind it. -/
theorem load_of_base {config : Config} {next : Path} (holds : configAt? system path = some config)
    (names : config.base = some base) (leads : basePath? path base = some next) :
    load system path = (loadAfter system [system.place path] next).map config.onTopOf := by
  obtain ⟨text, readable, parsed⟩ := exists_text_of_configAt? holds
  have visited : visit system [] path = .wentOn config next := by
    simp [visit, readable, parsed, names, leads]
  rw [load, loadAfter_eq, visited]

/-- The text that a base is looked up by: as it is if its name has a dot behind the first
character, and with `.json` behind it otherwise. -/
def completed (base name : Text) : Text :=
  if '.' ∈ name.tail then base else base ++ ".json".toList

theorem basePath?_completed (isParent : path.parent? = some directory)
    (named : (.ofText base : Path).fileName? = some (Letters.ofText name))
    (endsInName : name <:+ base) :
    basePath? path base = some (directory.join ⟨completed base name⟩) := by
  unfold completed
  split_ifs with dotted
  · exact basePath?_of_dotted isParent named dotted
  · exact basePath?_of_undotted isParent named endsInName dotted

theorem completed_of_json {stem : Text} (nonempty : stem ≠ []) (base : Text) :
    completed base (stem ++ ".json".toList) = base := by
  obtain ⟨first, rest, rfl⟩ := List.exists_cons_of_ne_nil nonempty
  exact if_pos (by simp)

/-- A base that is written with its file name at the end is looked up beside the file that
extends it.  It is completed by `.json` if no dot stands behind the first character of its name,
and looked up as it is written otherwise, so in particular if it ends in `.json` behind a stem.
Loading goes on to the file that is found there. -/
theorem basePath?_and_load (isParent : path.parent? = some directory)
    (named : (.ofText base : Path).fileName? = some (Letters.ofText name))
    (endsInName : name <:+ base) :
    basePath? path base = some (directory.join ⟨completed base name⟩) ∧
      (∀ stem, stem ≠ [] → name = stem ++ ".json".toList →
        basePath? path base = some (directory.join (.ofText base))) ∧
      ∀ (system : FileSystem) (config : Config),
        configAt? system path = some config → config.base = some base →
          load system path =
            (loadAfter system [system.place path] (directory.join ⟨completed base name⟩)).map
              config.onTopOf := by
  have leads := basePath?_completed isParent named endsInName
  refine ⟨leads, ?written, ?loads⟩
  case written =>
    rintro stem nonempty rfl
    rw [leads, completed_of_json nonempty]
  case loads =>
    intro system config holds names
    exact load_of_base holds names leads

/-- A file that extends a hidden one. -/
def hidden : FileSystem :=
  .ofFiles
    [(.ofString "/p/tsconfig.json", "\x7b\"extends\":\"./.base\"\x7d".toList),
      (.ofString "/p/.base.json",
        "\x7b\"compilerOptions\":\x7b\"allowJs\":true\x7d\x7d".toList)]

theorem basePath?_and_load_hidden :
    (ofString "/p/tsconfig.json").parent? = some (ofString "/p") ∧
      (ofString "./.base").fileName? = some (Letters.ofText ".base".toList) ∧
      ".base".toList <:+ "./.base".toList ∧
      basePath? (ofString "/p/tsconfig.json") "./.base".toList =
        some (ofString "/p/./.base.json") ∧
      load hidden (ofString "/p/tsconfig.json") =
        .ok ⟨none, some ⟨none, none, some true, none⟩⟩ := by
  have isParent : (ofString "/p/tsconfig.json").parent? = some (ofString "/p") := by decide
  have named : (ofString "./.base").fileName? = some (Letters.ofText ".base".toList) := by decide
  have endsInName : ".base".toList <:+ "./.base".toList := by decide
  have holds : configAt? hidden (ofString "/p/tsconfig.json") =
      some ⟨some "./.base".toList, none⟩ := by
    decide +kernel
  obtain ⟨leads, -, loads⟩ := basePath?_and_load isParent named endsInName
  have last : Chain hidden ((ofString "/p").join ⟨completed "./.base".toList ".base".toList⟩)
      [(ofString "/p/./.base.json", ⟨none, some ⟨none, none, some true, none⟩⟩)] :=
    .last rfl (by decide +kernel) rfl
  refine ⟨isParent, named, endsInName, leads, (loads hidden _ holds rfl).trans ?_⟩
  rw [last.loadAfter_eq (by decide) (List.pairwise_singleton _ _)]
  rfl

/-- A file that extends another one whose name has a dot. -/
def dotted : FileSystem :=
  .ofFiles
    [(.ofString "/p/tsconfig.json", "\x7b\"extends\":\"./tsconfig.base\"\x7d".toList),
      (.ofString "/p/tsconfig.base.json",
        "\x7b\"compilerOptions\":\x7b\"allowJs\":true\x7d\x7d".toList)]

/-- The name of a base has no `.json` behind its dot, and none is put there.  So the file that is
meant is not found. -/
theorem basePath?_ne_append_json :
    (ofString "/p/tsconfig.json").parent? = some (ofString "/p") ∧
      (ofString "./tsconfig.base").isAbsolute = false ∧
      (ofString "./tsconfig.base").fileName? = some (Letters.ofText "tsconfig.base".toList) ∧
      "tsconfig.base".toList <:+ "./tsconfig.base".toList ∧
      ¬ ".json".toList <:+ "tsconfig.base".toList ∧
      basePath? (ofString "/p/tsconfig.json") "./tsconfig.base".toList ≠
        some ((ofString "/p").join (ofString "./tsconfig.base.json")) ∧
      (∃ config, configAt? dotted ((ofString "/p").join (ofString "./tsconfig.base.json")) =
        some config) ∧
      load dotted (ofString "/p/tsconfig.json") =
        .error (.unreadable ((ofString "/p").join (ofString "./tsconfig.base")) .notFound) := by
  have holds : configAt? dotted (ofString "/p/tsconfig.json") =
      some ⟨some "./tsconfig.base".toList, none⟩ := by
    decide +kernel
  have leads : basePath? (ofString "/p/tsconfig.json") "./tsconfig.base".toList =
      some ((ofString "/p").join (ofString "./tsconfig.base")) := by
    decide
  refine ⟨by decide, by decide, by decide, by decide, by decide, by decide,
    ⟨⟨none, some ⟨none, none, some true, none⟩⟩, by decide +kernel⟩, ?_⟩
  rw [load_of_base holds rfl leads, loadAfter_eq]
  rfl

end Config

end Relink
