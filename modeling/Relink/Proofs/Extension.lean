import Relink.Extension
import Relink.Proofs.Path.Shown

/-!
# Extensions and endings

The extension of a file is an ending of its path.  Two extensions that end one text are
equal, or both mark source text with types.  So appending an extension, or putting one in
the place of another, tells the extension of the new path.
-/

namespace Relink

open Relink.Path

namespace Path

section SplitName

variable {α : Type} [DecidableEq α] {dot : α}

/-- The name before its last dot, unless nothing stands before it. -/
theorem splitName_append {stem ending : List α} (nonempty : stem ≠ []) (noDot : dot ∉ ending) :
    splitName dot (stem ++ dot :: ending) = (stem, some ending) := by
  unfold splitName
  rw [Text.splitAtLast?_append noDot]
  cases stem with
  | nil => exact absurd rfl nonempty
  | cons char rest => rfl

theorem eq_append_of_splitName {name ending : List α}
    (found : (splitName dot name).2 = some ending) :
    ∃ stem, stem ≠ [] ∧ name = stem ++ dot :: ending := by
  unfold splitName at found
  split at found
  · simp at found
  · simp at found
  · rename_i stem after notEmpty cut
    simp only [Option.some.injEq] at found
    subst found
    exact ⟨stem, fun empty => notEmpty empty, (Text.splitAtLast?_eq_some cut).1⟩

end SplitName

end Path

namespace Extension

/-! ## Endings -/

/-- Of two extensions one of which ends in the other, both mark source text. -/
theorem eq_or_isTypeScript_of_suffix {short long : Extension} (known : short ≠ .unknown)
    (ends : short.text <:+ long.text) :
    short = long ∨ short.isTypeScript = true ∧ long.isTypeScript = true := by
  cases short <;> cases long <;> revert known ends <;> decide

theorem eq_or_isTypeScript_of_suffixes {first second : Extension} {text : Text}
    (firstKnown : first ≠ .unknown) (secondKnown : second ≠ .unknown)
    (firstEnds : first.text <:+ text) (secondEnds : second.text <:+ text) :
    first = second ∨ first.isTypeScript = true ∧ second.isTypeScript = true := by
  rcases List.suffix_or_suffix_of_suffix firstEnds secondEnds with within | within
  · exact eq_or_isTypeScript_of_suffix firstKnown within
  · rcases eq_or_isTypeScript_of_suffix secondKnown within with same | both
    · exact Or.inl same.symm
    · exact Or.inr both.symm

theorem mem_compound_or_simple {extension : Extension} (known : extension ≠ .unknown) :
    extension ∈ compound ∨ extension ∈ simple := by
  cases extension <;> simp_all [compound, simple]

theorem ne_unknown_of_mem_compound {extension : Extension} (member : extension ∈ compound) :
    extension ≠ .unknown := by
  rintro rfl
  simp [compound] at member

theorem ne_unknown_of_mem_simple {extension : Extension} (member : extension ∈ simple) :
    extension ≠ .unknown := by
  rintro rfl
  simp [simple] at member

/-- A simple extension is a dot and an ending without dots. -/
theorem text_of_mem_simple {extension : Extension} (member : extension ∈ simple) :
    ∃ ending, extension.text = '.' :: ending ∧ '.' ∉ ending := by
  cases extension <;> simp_all [simple, text]

theorem two_lt_length_text {extension : Extension} (known : extension ≠ .unknown) :
    2 < extension.text.length := by
  cases extension <;> simp_all [text]

/-- An extension is made of characters that are shown as they are and are no slashes. -/
theorem plain_text (extension : Extension) : '\ufffd' ∉ extension.text := by
  cases extension <;> decide

theorem noSlash_text (extension : Extension) :
    .char '/' ∉ Letters.ofText extension.text := by
  cases extension <;> decide

/-! ## The extension of a name -/

theorem text_suffix_ofName (name : Text) : (ofName name).text <:+ name := by
  unfold ofName
  split
  · rename_i extension found
    have ends := List.find?_some found
    exact List.isSuffixOf_iff_suffix.1 ends
  · split
    · rename_i ending cut
      cases found : simple.find? fun extension => extension.text = '.' :: ending with
      | none => exact List.nil_suffix
      | some extension =>
          obtain ⟨stem, -, rfl⟩ := eq_append_of_splitName cut
          have spelled : extension.text = '.' :: ending := by simpa using List.find?_some found
          exact ⟨stem, by rw [Option.getD_some, spelled]⟩
    · exact List.nil_suffix

theorem ofName_append_ne_unknown {stem : Text} {extension : Extension} (nonempty : stem ≠ [])
    (known : extension ≠ .unknown) : ofName (stem ++ extension.text) ≠ .unknown := by
  unfold ofName
  split
  · rename_i found isFound
    exact ne_unknown_of_mem_compound (List.mem_of_find?_eq_some isFound)
  · rename_i noneFound
    have isSimple : extension ∈ simple := by
      rcases mem_compound_or_simple known with isCompound | isSimple
      · have absent := List.find?_eq_none.1 noneFound extension isCompound
        exact absurd (List.isSuffixOf_iff_suffix.2 (List.suffix_append stem _)) absent
      · exact isSimple
    obtain ⟨ending, spelled, noDot⟩ := text_of_mem_simple isSimple
    simp only [spelled, splitName_append nonempty noDot]
    cases found : simple.find? fun other => other.text = '.' :: ending with
    | none =>
        have absent := List.find?_eq_none.1 found extension isSimple
        simp [spelled] at absent
    | some other => exact ne_unknown_of_mem_simple (List.mem_of_find?_eq_some found)

/-- A simple extension alone is the name of a file without extension. -/
theorem ofName_text_of_mem_simple {extension : Extension} (member : extension ∈ simple) :
    ofName extension.text = .unknown := by
  cases extension <;> revert member <;> decide

/-- A name with an extension behind it has this extension, or a longer one of the same
kind. -/
theorem ofName_append {stem : Text} {extension : Extension} (nonempty : stem ≠ [])
    (known : extension ≠ .unknown) :
    ofName (stem ++ extension.text) = extension ∨
      extension.isTypeScript = true ∧ (ofName (stem ++ extension.text)).isTypeScript = true := by
  have settled := eq_or_isTypeScript_of_suffixes known (ofName_append_ne_unknown nonempty known)
    (List.suffix_append stem _) (text_suffix_ofName _)
  rcases settled with same | both
  · exact Or.inl same.symm
  · exact Or.inr both

/-! ## The extension of a path -/

theorem ofPath_join (directory : Path) {name : Text} (isName : IsName name) :
    ofPath (directory.join ⟨name⟩) = ofName name := by
  simp [ofPath, fileName?_join directory isName, Letters.text?_ofText]

/-- Only a file name that is a text has an extension that is known. -/
theorem exists_name_of_ofPath {path : Path} (known : ofPath path ≠ .unknown) :
    ∃ name : Text, path.fileName? = some (Letters.ofText name) ∧ ofPath path = ofName name := by
  unfold ofPath at known ⊢
  split at known
  · rename_i name found
    obtain ⟨letters, named, read⟩ := Option.bind_eq_some_iff.1 found
    obtain rfl := Letters.eq_ofText_of_text? read
    exact ⟨name, named, rfl⟩
  · exact absurd rfl known

theorem isName_append_text {stem : Letters} {extension : Extension} (noSlash : .char '/' ∉ stem)
    (known : extension ≠ .unknown) : IsName (stem ++ Letters.ofText extension.text) := by
  have long := two_lt_length_text known
  apply IsName.of_length
  · rw [List.length_append, Letters.ofText, List.length_map]
    omega
  · rw [List.mem_append, not_or]
    exact ⟨noSlash, noSlash_text extension⟩

theorem text_suffix_ofPath {path : Path} (normal : path.IsNormal) :
    (ofPath path).text <:+ path.text := by
  by_cases known : ofPath path = .unknown
  · rw [known]
    exact List.nil_suffix
  · obtain ⟨name, named, read⟩ := exists_name_of_ofPath known
    obtain ⟨directory, -, isName, rfl⟩ := normal.exists_directory named
    obtain ⟨front, ends⟩ := suffix_letters_join directory isName.noSlash
    have shows : name <:+ (directory.join ⟨name⟩).text :=
      ⟨Letters.shown front, by simp [Path.text, ← ends]⟩
    rw [read]
    exact (text_suffix_ofName name).trans shows

/-! ## Appending and exchanging extensions -/

theorem isAbsolute_append {path : Path} (absolute : path.isAbsolute = true) (ending : Letters) :
    (⟨path.letters ++ ending⟩ : Path).isAbsolute = true := by
  obtain ⟨rest, rfl⟩ := exists_rest_of_isAbsolute absolute
  rfl

@[simp] theorem dropFrom_appendTo (extension : Extension) (path : Path) :
    extension.dropFrom (extension.appendTo path) = .ofText path.text := by
  simp [dropFrom, appendTo, Path.text]

theorem appendTo_injective {extension : Extension} {first second : Path}
    (same : extension.appendTo first = extension.appendTo second) : first = second :=
  congrArg Path.mk (List.append_cancel_right (congrArg Path.letters same))

theorem appendTo_join (directory : Path) {stem : Letters} (noSlash : .char '/' ∉ stem)
    (extension : Extension) :
    extension.appendTo (directory.join ⟨stem⟩) =
      directory.join ⟨stem ++ Letters.ofText extension.text⟩ :=
  letters_join_append directory noSlash (noSlash_text extension)

@[simp] theorem text_appendTo (extension : Extension) (path : Path) :
    (extension.appendTo path).text = path.text ++ extension.text := by
  simp [appendTo, Path.text]

/-- What is appended is shown as it is. -/
theorem ofText_text_appendTo (extension : Extension) (path : Path) :
    .ofText (extension.appendTo path).text = extension.appendTo (.ofText path.text) := by
  simp [appendTo, Path.text, ofText]

theorem text_suffix_appendTo (extension : Extension) (path : Path) :
    extension.text <:+ (extension.appendTo path).text :=
  ⟨path.text, (text_appendTo extension path).symm⟩

theorem isText_appendTo_iff (extension : Extension) (path : Path) :
    (extension.appendTo path).IsText ↔ path.IsText := by
  rw [isText_iff, isText_iff]
  simp [appendTo, Path.text]

/-- What an extension is taken off is a text. -/
theorem isText_dropFrom {extension : Extension} {path : Path}
    (ends : extension.text <:+ path.text) : (extension.dropFrom path).IsText := by
  obtain ⟨stem, spelled⟩ := ends
  rw [dropFrom, ← spelled, Text.dropEnding?_append]
  exact isText_ofText stem

/-- An extension behind a normal path makes one more normal path. -/
theorem isNormal_appendTo {path : Path} (normal : path.IsNormal) {extension : Extension}
    (known : extension ≠ .unknown) : (extension.appendTo path).IsNormal := by
  obtain ⟨directory, piece, directoryNormal, noSlash, rfl⟩ := normal.exists_join
  rw [appendTo_join directory noSlash]
  exact directoryNormal.join_name (isName_append_text noSlash known)

theorem isRooted_appendTo {path : Path} (rooted : path.IsRooted) {extension : Extension}
    (known : extension ≠ .unknown) : (extension.appendTo path).IsRooted :=
  ⟨isAbsolute_append rooted.absolute _, isNormal_appendTo rooted.normal known⟩

/-- A normal path that ends in an extension: its last piece is a stem and the extension. -/
theorem exists_stem {path : Path} (normal : path.IsNormal) {extension : Extension}
    (ends : extension.text <:+ path.text) :
    ∃ (directory : Path) (stem : Letters), directory.IsNormal ∧ .char '/' ∉ stem ∧
      path = directory.join ⟨stem ++ Letters.ofText extension.text⟩ := by
  obtain ⟨directory, piece, directoryNormal, noSlash, rfl⟩ := normal.exists_join
  rw [Path.text, ← Letters.ofText_suffix_iff (plain_text extension),
    suffix_letters_join_iff directory noSlash (noSlash_text extension)] at ends
  obtain ⟨stem, rfl⟩ := ends
  rw [List.mem_append, not_or] at noSlash
  exact ⟨directory, stem, directoryNormal, noSlash.1, rfl⟩

/-- Exchanging the extension changes the last piece alone, and leaves of all pieces what is shown
of them. -/
theorem appendTo_dropFrom_join (directory : Path) {stem : Letters} (noSlash : .char '/' ∉ stem)
    (old new : Extension) :
    new.appendTo (old.dropFrom (directory.join ⟨stem ++ Letters.ofText old.text⟩)) =
      .ofText (directory.join ⟨stem ++ Letters.ofText new.text⟩).text := by
  rw [← appendTo_join directory noSlash, dropFrom_appendTo, ← appendTo_join directory noSlash,
    ofText_text_appendTo]

section Exchange

variable {path : Path} {old new : Extension} (ends : old.text <:+ path.text)
  (newKnown : new ≠ .unknown)

include ends newKnown

theorem isNormal_exchange (normal : path.IsNormal) :
    (new.appendTo (old.dropFrom path)).IsNormal := by
  obtain ⟨directory, stem, directoryNormal, noSlash, rfl⟩ := exists_stem normal ends
  rw [appendTo_dropFrom_join directory noSlash]
  exact isNormal_ofText_text
    (directoryNormal.join_name (isName_append_text noSlash newKnown))

theorem isRooted_exchange (rooted : path.IsRooted) :
    (new.appendTo (old.dropFrom path)).IsRooted := by
  refine ⟨?_, isNormal_exchange ends newKnown rooted.normal⟩
  obtain ⟨directory, stem, -, noSlash, rfl⟩ := exists_stem rooted.normal ends
  have unrooted (extension : Extension) :
      (⟨stem ++ Letters.ofText extension.text⟩ : Path).isAbsolute = false :=
    isAbsolute_of_not_mem (by simp [noSlash, noSlash_text extension])
  have absolute := rooted.absolute
  rw [isAbsolute_join_eq (unrooted old)] at absolute
  rw [appendTo_dropFrom_join directory noSlash, isAbsolute_ofText_text,
    isAbsolute_join_eq (unrooted new), absolute]

/-- A path that was more than its extension has the new extension after an exchange, or a
longer one of the same kind. -/
theorem ofPath_exchange (normal : path.IsNormal) (oldKnown : old ≠ .unknown)
    (notAlone : ofPath path ≠ ofName old.text) :
    ofPath (new.appendTo (old.dropFrom path)) = new ∨
      new.isTypeScript = true ∧
        (ofPath (new.appendTo (old.dropFrom path))).isTypeScript = true := by
  obtain ⟨directory, stem, -, noSlash, rfl⟩ := exists_stem normal ends
  have nonempty : Letters.shown stem ≠ [] := by
    intro empty
    obtain rfl : stem = [] := by simpa [Letters.shown] using empty
    exact notAlone (ofPath_join directory (isName_append_text noSlash oldKnown))
  have isName := Letters.isName_ofText_shown (isName_append_text noSlash newKnown)
  rw [appendTo_dropFrom_join directory noSlash, ofText_text_join]
  simp only [Path.text, Letters.shown_append, Letters.shown_ofText] at isName ⊢
  rw [ofPath_join _ isName]
  exact ofName_append nonempty newKnown

end Exchange

end Extension

end Relink
