import Relink.Log.Directive
import Relink.Proofs.Pieces
import Relink.Proofs.Text.LetterCase

/-!
# Scoping of directives

Scoping works on the trimmed pieces of a text that are not empty, one by one, and joins them
again.  What it leaves for a piece is such a piece once more and names no level, so that scoping
a second time changes nothing, and texts can be scoped apart and joined.
-/

namespace Relink

namespace Text

/-! ## Trimming -/

/-- A text with no blank at either end. -/
def IsTrimmed (text : Text) : Prop :=
  (∀ first ∈ text.head?, isBlank first = false) ∧ ∀ last ∈ text.getLast?, isBlank last = false

theorem head?_trimStart {text : Text} :
    ∀ first ∈ text.trimStart.head?, isBlank first = false := by
  intro first isFirst
  have spelled : text.dropWhile isBlank = first :: text.trimStart.tail :=
    List.eq_cons_of_mem_head? isFirst
  have stopped := List.head?_dropWhile_not isBlank text
  rw [spelled] at stopped
  exact stopped

theorem prefix_trimEnd (text : Text) : text.trimEnd <+: text := by
  have ends := List.dropWhile_suffix isBlank (l := text.reverse)
  rw [← List.reverse_prefix, List.reverse_reverse] at ends
  exact ends

theorem trimEnd_eq (text : Text) : text.trimEnd = (trimStart text.reverse).reverse :=
  rfl

theorem isTrimmed_trim (text : Text) : IsTrimmed text.trim := by
  constructor
  · intro first isFirst
    obtain ⟨behind, parts⟩ := prefix_trimEnd text.trimStart
    have early : first ∈ text.trimStart.head? := by
      rw [← parts, List.head?_append, show text.trimStart.trimEnd.head? = some first from isFirst]
      rfl
    exact head?_trimStart first early
  · intro last isLast
    rw [trim, trimEnd_eq, List.getLast?_reverse] at isLast
    exact head?_trimStart last isLast

theorem trimStart_of_head? {text : Text} (seen : ∀ first ∈ text.head?, isBlank first = false) :
    text.trimStart = text := by
  cases text with
  | nil => rfl
  | cons first rest => simp [trimStart, seen first rfl]

theorem IsTrimmed.trim_eq {text : Text} (trimmed : IsTrimmed text) : text.trim = text := by
  have start := trimStart_of_head? trimmed.1
  have back : trimStart text.reverse = text.reverse := by
    apply trimStart_of_head?
    simpa using trimmed.2
  rw [trim, start, trimEnd_eq, back, List.reverse_reverse]

theorem mem_of_mem_trim {text : Text} {char : Char} (member : char ∈ text.trim) : char ∈ text := by
  have early : char ∈ text.trimStart := (prefix_trimEnd text.trimStart).subset member
  exact (List.dropWhile_sublist isBlank).subset early

end Text

namespace Log

/-! ## Names of levels -/

/-- The names of the levels. -/
def levelNames : List String := ["off", "error", "warn", "info", "debug", "trace"]

/-- Whether a text spells the name of a level, in any letter case. -/
def spellsLevel (text : Text) : Bool :=
  levelNames.any fun name => text.toAsciiLower = name.toList

theorem isPlain_of_mem_levelNames :
    ∀ name ∈ levelNames, ∀ letter ∈ name.toList, LetterCase.IsPlain letter := by
  have all : (levelNames.all fun name => name.toList.all fun letter =>
      decide (LetterCase.IsPlain letter)) = true := by decide
  intro name isName letter member
  have letters := List.all_eq_true.1 all name isName
  exact of_decide_eq_true (List.all_eq_true.1 letters letter member)

theorem isLevelName_eq_spellsLevel (directive : Text) :
    isLevelName directive = spellsLevel directive := by
  have words : Level.all.map Level.word = levelNames.map String.toList := by decide
  rw [Bool.eq_iff_iff]
  calc
    isLevelName directive = true ↔ ∃ level ∈ Level.all, level.word = directive.toLower := by
      simp [isLevelName, Level.ofWord?]
    _ ↔ directive.toLower ∈ Level.all.map Level.word := by simp
    _ ↔ ∃ name ∈ levelNames, directive.toLower = name.toList := by
      simp only [words, List.mem_map, eq_comm]
    _ ↔ ∃ name ∈ levelNames, directive.toAsciiLower = name.toList :=
      exists_congr fun name => and_congr_right fun member =>
        Text.toLower_eq_iff (isPlain_of_mem_levelNames name member) directive
    _ ↔ spellsLevel directive = true := by simp [spellsLevel]

/-! ## Directives -/

/-- A directive of a list: not empty, trimmed, and without the comma that would part it. -/
structure IsDirective (directive : Text) : Prop where
  nonempty : directive ≠ []
  whole : ',' ∉ directive
  trimmed : directive.IsTrimmed

theorem isDirective_of_mem_directives {text directive : Text}
    (member : directive ∈ directives text) : IsDirective directive := by
  obtain ⟨among, nonempty⟩ := List.mem_filter.1 member
  obtain ⟨piece, isPiece, rfl⟩ := List.mem_map.1 among
  refine ⟨by simpa using nonempty, fun comma => ?_, Text.isTrimmed_trim piece⟩
  exact Text.not_mem_of_mem_splitOn isPiece (Text.mem_of_mem_trim comma)

/-- What directives are joined to has these directives again. -/
theorem directives_joinWith {pieces : List Text}
    (areDirectives : ∀ piece ∈ pieces, IsDirective piece) :
    directives (Text.joinWith ',' pieces) = pieces := by
  by_cases empty : pieces = []
  · subst empty
    rfl
  have cut := Text.splitOn_joinWith empty fun piece member => (areDirectives piece member).whole
  have trimmed : pieces.map Text.trim = pieces := by
    rw [List.map_congr_left fun piece member => (areDirectives piece member).trimmed.trim_eq]
    exact List.map_id' pieces
  rw [directives, cut, trimmed, List.filter_eq_self]
  intro piece member
  simpa using (areDirectives piece member).nonempty

theorem directives_append_comma (text other : Text) :
    directives (text ++ ',' :: other) = directives text ++ directives other := by
  rw [directives, Text.splitOn_append_mark, List.map_append, List.filter_append]
  rfl

theorem toOwn_eq (directive : Text) :
    toOwn directive =
      if spellsLevel directive then "esm_specifiers=".toList ++ directive else directive := by
  rw [toOwn, isLevelName_eq_spellsLevel]
  rfl

theorem isDirective_toOwn {directive : Text} (isDirective : IsDirective directive) :
    IsDirective (toOwn directive) := by
  rw [toOwn_eq]
  split_ifs
  · obtain ⟨nonempty, whole, trimmed⟩ := isDirective
    refine ⟨by simp, ?_, ?_, ?_⟩
    · have target : ',' ∉ "esm_specifiers=".toList := by decide
      simp only [List.mem_append, not_or]
      exact ⟨target, whole⟩
    · intro first isFirst
      obtain rfl : 'e' = first := by simpa using isFirst
      decide
    · intro last isLast
      rw [List.getLast?_append_of_ne_nil _ nonempty] at isLast
      exact trimmed.2 last isLast
  · exact isDirective

/-- What stands behind a target is not read as a level any more. -/
theorem spellsLevel_toOwn (directive : Text) : spellsLevel (toOwn directive) = false := by
  rw [toOwn_eq]
  split_ifs with level
  · apply Bool.eq_false_iff.2
    intro again
    obtain ⟨name, member, spelled⟩ := List.any_eq_true.1 again
    have absent : ∀ name ∈ levelNames, '=' ∉ name.toList := by decide
    apply absent name member
    rw [← of_decide_eq_true spelled]
    have sign : '=' ∈ "esm_specifiers=".toList ++ directive :=
      List.mem_append_left _ (by decide)
    exact List.mem_map_of_mem sign
  · simpa using level

theorem toOwn_toOwn (directive : Text) : toOwn (toOwn directive) = toOwn directive := by
  rw [toOwn_eq (toOwn directive), spellsLevel_toOwn]
  rfl

/-! ## Texts of directives -/

theorem isDirective_of_mem_scoped {text piece : Text}
    (member : piece ∈ (directives text).map toOwn) :
    IsDirective piece ∧ spellsLevel piece = false := by
  obtain ⟨directive, isDirective, rfl⟩ := List.mem_map.1 member
  exact ⟨isDirective_toOwn (isDirective_of_mem_directives isDirective),
    spellsLevel_toOwn directive⟩

theorem directives_scopedDirectives (text : Text) :
    directives (scopedDirectives text) = (directives text).map toOwn :=
  directives_joinWith fun _ member => (isDirective_of_mem_scoped member).1

theorem scopedDirectives_eq_nil_iff (text : Text) :
    scopedDirectives text = [] ↔ directives text = [] := by
  constructor
  · intro empty
    have again := directives_scopedDirectives text
    rw [empty] at again
    exact List.map_eq_nil_iff.1 again.symm
  · intro none
    rw [scopedDirectives, none]
    rfl

theorem scopedDirectives_append_comma (text other : Text) :
    scopedDirectives (text ++ ',' :: other) =
      Text.joinWith ',' ([scopedDirectives text, scopedDirectives other].filter (· ≠ [])) := by
  have parts : scopedDirectives (text ++ ',' :: other) =
      Text.joinWith ',' ((directives text).map toOwn ++ (directives other).map toOwn) := by
    rw [scopedDirectives, directives_append_comma, List.map_append]
  rw [parts]
  by_cases first : directives text = []
  · have left := (scopedDirectives_eq_nil_iff text).2 first
    by_cases second : directives other = []
    · have right := (scopedDirectives_eq_nil_iff other).2 second
      simp [left, right, first, second, Text.joinWith]
    · have right := mt (scopedDirectives_eq_nil_iff other).1 second
      simp only [left, right, first, List.filter, List.map_nil, List.nil_append, ne_eq,
        not_true_eq_false, not_false_eq_true, decide_true, decide_false]
      rfl
  · have left := mt (scopedDirectives_eq_nil_iff text).1 first
    by_cases second : directives other = []
    · have right := (scopedDirectives_eq_nil_iff other).2 second
      simp only [left, right, second, List.filter, List.map_nil, List.append_nil, ne_eq,
        not_true_eq_false, not_false_eq_true, decide_true, decide_false]
      rfl
    · have right := mt (scopedDirectives_eq_nil_iff other).1 second
      rw [Text.joinWith_append (by simpa using first) (by simpa using second)]
      simp only [left, right, List.filter, ne_eq, not_false_eq_true, decide_true]
      rfl

/-- Scoping puts the name of this library before the levels among the directives of a text: its
trimmed pieces between commas that are not empty, in their order.  The pieces of the result are
such directives again and no levels.  Scoping them once more changes nothing, and two texts with
a comma between them are scoped apart, where one that is left empty takes its comma with it. -/
theorem scopedDirectives_projects (text other : Text) :
    (Text.joinWith ',' (Text.splitOn ',' text) = text ∧
        (∀ piece ∈ Text.splitOn ',' text, ',' ∉ piece) ∧
        scopedDirectives text =
          Text.joinWith ',' ((((Text.splitOn ',' text).map Text.trim).filter (· ≠ [])).map
            fun piece =>
              if spellsLevel piece then "esm_specifiers=".toList ++ piece else piece)) ∧
      (scopedDirectives text = [] ∨
        ∀ piece ∈ Text.splitOn ',' (scopedDirectives text),
          piece ≠ [] ∧ Text.IsTrimmed piece ∧ spellsLevel piece = false) ∧
      scopedDirectives (scopedDirectives text) = scopedDirectives text ∧
      scopedDirectives (text ++ ',' :: other) =
        Text.joinWith ',' ([scopedDirectives text, scopedDirectives other].filter (· ≠ [])) := by
  refine ⟨⟨Text.joinWith_splitOn ',' text, fun piece => Text.not_mem_of_mem_splitOn, ?_⟩, ?_, ?_,
    scopedDirectives_append_comma text other⟩
  · rw [scopedDirectives, directives, List.map_congr_left fun piece _ => toOwn_eq piece]
  · by_cases none : directives text = []
    · exact Or.inl ((scopedDirectives_eq_nil_iff text).2 none)
    · right
      intro piece member
      have cut : Text.splitOn ',' (scopedDirectives text) = (directives text).map toOwn :=
        Text.splitOn_joinWith (by simpa using none) fun piece member =>
          (isDirective_of_mem_scoped member).1.whole
      rw [cut] at member
      obtain ⟨isDirective, noLevel⟩ := isDirective_of_mem_scoped member
      exact ⟨isDirective.nonempty, isDirective.trimmed, noLevel⟩
  · rw [scopedDirectives, directives_scopedDirectives, List.map_map]
    exact congrArg (Text.joinWith ',') (List.map_congr_left fun piece _ => toOwn_toOwn piece)

example :
    scopedDirectives ", DeBug ,a=b,, Kinfo\u3000,".toList =
      "esm_specifiers=DeBug,a=b,Kinfo".toList := by
  decide +kernel

end Log

end Relink
