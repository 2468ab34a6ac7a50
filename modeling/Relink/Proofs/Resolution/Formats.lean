import Relink.Proofs.Resolution.Candidates

/-!
# Extensions of the files behind a script

A path is classified by the ending of its name, taken apart as a text, and put together again
with another ending.  These fit: the extension of a normal path is what its text ends in, and a
path with an exchanged extension is classified as source text again.  It may count as a longer
extension than the one that was written, but one ending in another leaves the module format the
same.
-/

namespace Relink

open Relink.Path

namespace Extension

/-! ## Endings and module formats -/

/-- An extension that ends in another one fixes the same module format. -/
theorem format_eq_of_suffix {short long : Extension} (known : short ≠ .unknown)
    (ends : short.text <:+ long.text) :
    short.forcesEsm = long.forcesEsm ∧ short.forcesCommonJs = long.forcesCommonJs := by
  cases short <;> cases long <;> revert known ends <;> decide

theorem format_eq_of_suffixes {first second : Extension} {text : Text}
    (firstKnown : first ≠ .unknown) (secondKnown : second ≠ .unknown)
    (firstEnds : first.text <:+ text) (secondEnds : second.text <:+ text) :
    first.forcesEsm = second.forcesEsm ∧ first.forcesCommonJs = second.forcesCommonJs := by
  rcases List.suffix_or_suffix_of_suffix firstEnds secondEnds with within | within
  · exact format_eq_of_suffix firstKnown within
  · obtain ⟨esm, commonJs⟩ := format_eq_of_suffix secondKnown within
    exact ⟨esm.symm, commonJs.symm⟩

/-- The formats of the sources that a script may stand for. -/
theorem format_of_mem_sources {script source : Extension} (member : source ∈ script.sources) :
    (script = .cjs → source.forcesCommonJs = true) ∧
      (script = .mjs → source.forcesCommonJs = false) ∧
      (script = .js ∨ script = .jsx →
        source.forcesEsm = false ∧ source.forcesCommonJs = false) := by
  cases script <;> cases source <;> revert member <;> decide

/-! ## Taking an extension off -/

theorem getLast?_splitOn_text_join (directory : Path) {piece : Letters}
    (noSlash : .char '/' ∉ piece) :
    (Text.splitOn '/' (directory.join ⟨piece⟩).text).getLast? = some piece.shown := by
  have alone : Text.splitOn '/' piece.shown = [piece.shown] :=
    Text.splitOn_of_not_mem (by rwa [Letters.mem_shown (by decide)])
  have behindSlash (front : Text) :
      (Text.splitOn '/' (front ++ '/' :: piece.shown)).getLast? = some piece.shown := by
    rw [Text.splitOn_append_mark, alone, List.getLast?_concat]
  rw [join_of_not_mem directory noSlash]
  split_ifs with ends
  · rcases ends with blank | slash
    · rw [blank, List.nil_append, Path.text, alone]
      rfl
    · obtain ⟨front, shape⟩ := List.getLast?_eq_some_iff.1 slash
      rw [shape, List.append_assoc, Path.text, Letters.shown_append]
      exact behindSlash (Letters.shown front)
  · rw [Path.text, Letters.shown_append]
    exact behindSlash directory.letters.shown

variable {path : Path} (normal : path.IsNormal)

include normal

theorem text_dropFrom_append :
    path.text = ((ofPath path).dropFrom path).text ++ (ofPath path).text := by
  obtain ⟨stem, spelled⟩ := text_suffix_ofPath normal
  rw [dropFrom, ← spelled, Text.dropEnding?_append, text_ofText]

/-- A name that is classified has a stem before the extension, unless the extension is one of
those that may be the whole name. -/
theorem exists_stem_of_known (known : ofPath path ≠ .unknown) :
    ∃ stem, (Text.splitOn '/' ((ofPath path).dropFrom path).text).getLast? = some stem ∧
      (stem ≠ [] ∨ ofPath path ∈ compound) := by
  obtain ⟨directory, stem, -, noSlash, spelled⟩ := exists_stem normal (text_suffix_ofPath normal)
  have left : (ofPath path).dropFrom path = .ofText (directory.join ⟨stem⟩).text := by
    calc
      (ofPath path).dropFrom path =
          (ofPath path).dropFrom (directory.join ⟨stem ++ Letters.ofText (ofPath path).text⟩) := by
        rw [← spelled]
      _ = (ofPath path).dropFrom ((ofPath path).appendTo (directory.join ⟨stem⟩)) := by
        rw [appendTo_join directory noSlash]
      _ = .ofText (directory.join ⟨stem⟩).text := dropFrom_appendTo _ _
  refine ⟨stem.shown, by rw [left, text_ofText, getLast?_splitOn_text_join directory noSlash], ?_⟩
  by_cases empty : stem = []
  · right
    have isName : IsName (Letters.ofText (ofPath path).text) := by
      simpa using isName_append_text (List.not_mem_nil) known
    have counts : ofPath path = ofName (ofPath path).text := by
      rw [empty, List.nil_append] at spelled
      conv_lhs => rw [spelled, ofPath_join directory isName]
    rcases mem_compound_or_simple known with isCompound | isSimple
    · exact isCompound
    · rw [ofName_text_of_mem_simple isSimple] at counts
      exact absurd counts known
  · exact Or.inl (by simpa [Letters.shown] using empty)

/-- An exchanged extension leaves a path of the kind and of the module format of the new one. -/
theorem format_ofPath_exchange (script : (ofPath path).isJavaScript = true) {new : Extension}
    (typed : new.isTypeScript = true) :
    (ofPath (new.appendTo ((ofPath path).dropFrom path))).isTypeScript = true ∧
      (ofPath (new.appendTo ((ofPath path).dropFrom path))).forcesEsm = new.forcesEsm ∧
      (ofPath (new.appendTo ((ofPath path).dropFrom path))).forcesCommonJs =
        new.forcesCommonJs := by
  have newKnown := ne_unknown_of_isTypeScript typed
  have exchangedNormal := isNormal_exchange (text_suffix_ofPath normal) newKnown normal
  have exchangedKnown := ofPath_exchange_ne_unknown normal script newKnown
  have newEnds : new.text <:+ (new.appendTo ((ofPath path).dropFrom path)).text :=
    text_suffix_appendTo _ _
  have ends := text_suffix_ofPath exchangedNormal
  refine ⟨?_, format_eq_of_suffixes exchangedKnown newKnown ends newEnds⟩
  rcases eq_or_isTypeScript_of_suffixes exchangedKnown newKnown ends newEnds with same | both
  · rw [same]
    exact typed
  · exact both.1

end Extension

namespace Resolution

/-- A normal path that is classified is what is left of it without its extension, and the
extension.  A name is left, unless the extension has two dots.  Where the path names a script, it
stands for its sources first and then for itself, if scripts are allowed.  Each source is
classified as source text: as a CommonJS module behind a `.cjs`, as none behind an `.mjs`, and
without a fixed module format behind `.js` and `.jsx`. -/
theorem classification_fits {path : Path} (normal : path.IsNormal)
    (known : Extension.ofPath path ≠ .unknown) :
    path.text = ((Extension.ofPath path).dropFrom path).text ++ (Extension.ofPath path).text ∧
      (∃ stem,
        (Text.splitOn '/' ((Extension.ofPath path).dropFrom path).text).getLast? = some stem ∧
          (stem ≠ [] ∨ Extension.ofPath path ∈ [.dts, .dmts, .dcts])) ∧
      ((Extension.ofPath path).isJavaScript = true →
        (∀ options, spelled options path =
          sourceFiles path ++ if options.allowJs then [path] else []) ∧
        ∀ file ∈ sourceFiles path,
          (Extension.ofPath file).isTypeScript = true ∧
            (Extension.ofPath path = .cjs → (Extension.ofPath file).forcesCommonJs = true) ∧
            (Extension.ofPath path = .mjs → (Extension.ofPath file).forcesCommonJs = false) ∧
            (Extension.ofPath path = .js ∨ Extension.ofPath path = .jsx →
              (Extension.ofPath file).forcesEsm = false ∧
                (Extension.ofPath file).forcesCommonJs = false)) := by
  refine ⟨Extension.text_dropFrom_append normal, Extension.exists_stem_of_known normal known,
    fun script => ⟨fun options => ?_, ?_⟩⟩
  · simp only [spelled, script, if_true]
    rfl
  · intro file member
    obtain ⟨source, among, rfl⟩ := List.mem_map.1 member
    obtain ⟨typed, esm, commonJs⟩ := Extension.format_ofPath_exchange normal script
      (Extension.isTypeScript_of_mem_sources among)
    rw [esm, commonJs]
    exact ⟨typed, Extension.format_of_mem_sources among⟩

/-- A name of which only dots are left: its sources count as source text of either format. -/
theorem classification_fits_dotted :
    (Path.ofString "/p/.d.mjs").IsNormal ∧
      Extension.ofPath (.ofString "/p/.d.mjs") = .mjs ∧
      sourceFiles (.ofString "/p/.d.mjs") =
        [.ofString "/p/.d.mts", .ofString "/p/.d.d.mts", .ofString "/p/.d.ts"] ∧
      ∀ file ∈ sourceFiles (.ofString "/p/.d.mjs"),
        (Extension.ofPath file).isTypeScript = true ∧
          (Extension.ofPath file).forcesCommonJs = false := by
  have normal : (Path.ofString "/p/.d.mjs").normalize = .ofString "/p/.d.mjs" := by decide
  have counts : Extension.ofPath (.ofString "/p/.d.mjs") = .mjs := by decide
  have known : Extension.ofPath (.ofString "/p/.d.mjs") ≠ .unknown := by decide
  have script : (Extension.ofPath (.ofString "/p/.d.mjs")).isJavaScript = true := by decide
  obtain ⟨-, -, files⟩ := classification_fits normal known
  refine ⟨normal, counts, by decide, fun file member => ?_⟩
  obtain ⟨typed, -, never, -⟩ := (files script).2 file member
  exact ⟨typed, never counts⟩

end Resolution

end Relink
