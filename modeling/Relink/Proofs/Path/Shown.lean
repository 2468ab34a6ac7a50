import Relink.Proofs.Path.Rooted

/-!
# What texts show of paths

The text of a path spells a path again, in which stray bytes have become replacement characters.
This path has the slashes and dots of the first, so it is normal where the first is, and a text
ends in an ending of plain characters exactly if the path does.  The two paths are equal exactly
if all letters are characters.
-/

namespace Relink

/-! ## Letters -/

theorem Letter.shown_eq_iff {char : Char} (plain : char ≠ '\ufffd') (letter : Letter) :
    letter.shown = char ↔ letter = .char char := by
  cases letter with
  | char symbol => simp [Letter.shown]
  | stray bytes => simp [Letter.shown, Ne.symm plain]

namespace Letters

theorem mem_ofText {char : Char} {text : Text} : .char char ∈ ofText text ↔ char ∈ text := by
  simp [ofText]

theorem mem_shown {char : Char} (plain : char ≠ '\ufffd') {letters : Letters} :
    char ∈ shown letters ↔ .char char ∈ letters := by
  simp [shown, Letter.shown_eq_iff plain]

theorem ofText_joinWith (mark : Char) (pieces : List Text) :
    ofText (Text.joinWith mark pieces) = Text.joinWith (.char mark) (pieces.map ofText) := by
  induction pieces with
  | nil => rfl
  | cons piece rest ih =>
      by_cases last : rest = []
      · subst last
        rfl
      · rw [Text.joinWith_cons last, List.map_cons, Text.joinWith_cons (by simpa using last),
          ofText_append, ofText_cons, ih]

theorem shown_joinWith (mark : Letter) (pieces : List Letters) :
    shown (Text.joinWith mark pieces) = Text.joinWith mark.shown (pieces.map shown) := by
  induction pieces with
  | nil => rfl
  | cons piece rest ih =>
      by_cases last : rest = []
      · subst last
        rfl
      · rw [Text.joinWith_cons last, List.map_cons, Text.joinWith_cons (by simpa using last),
          shown_append, shown_cons, ih]

theorem shown_eq_iff {text : Text} (plain : '\ufffd' ∉ text) (letters : Letters) :
    letters.shown = text ↔ letters = ofText text := by
  induction letters generalizing text with
  | nil => cases text <;> simp
  | cons letter rest ih =>
      cases text with
      | nil => simp
      | cons char behind =>
          simp only [List.mem_cons, not_or] at plain
          simp [Letter.shown_eq_iff (Ne.symm plain.1), ih plain.2]

/-- Letters are told by their text exactly if each of them is shown as it is. -/
theorem ofText_shown_iff (letters : Letters) :
    ofText letters.shown = letters ↔ ∀ letter ∈ letters, .char letter.shown = letter := by
  induction letters with
  | nil => simp
  | cons letter rest ih => simp [ih]

/-- Letters end in a text of plain characters exactly if what is shown of them does. -/
theorem ofText_suffix_iff {ending : Text} (plain : '\ufffd' ∉ ending) (letters : Letters) :
    ofText ending <:+ letters ↔ ending <:+ letters.shown := by
  constructor
  · rintro ⟨front, rfl⟩
    exact ⟨shown front, by simp⟩
  · rintro ⟨front, ends⟩
    obtain ⟨before, behind, rfl, -, shows⟩ := List.map_eq_append_iff.1 ends.symm
    exact ⟨before, by rw [(shown_eq_iff plain behind).1 shows]⟩

/-- The letters that what is shown of some letters is spelled with. -/
theorem isName_ofText_shown {letters : Letters} (isName : IsName letters) :
    IsName (ofText letters.shown) := by
  have keeps {text : Text} (plain : '\ufffd' ∉ text) (other : letters ≠ ofText text) :
      ofText letters.shown ≠ ofText text := fun same =>
    other ((shown_eq_iff plain letters).1 (ofText_injective same))
  refine ⟨keeps List.not_mem_nil isName.nonempty,
    keeps (show '\ufffd' ∉ ['.'] by decide) isName.notCurrent,
    keeps (show '\ufffd' ∉ ['.', '.'] by decide) isName.notParent, ?_⟩
  rw [mem_ofText, mem_shown (by decide)]
  exact isName.noSlash

end Letters

/-! ## Paths -/

namespace Path

open Letters

@[simp] theorem text_ofText (text : Text) : (ofText text).text = text :=
  shown_ofText text

theorem isText_iff {path : Path} : path.IsText ↔ Letters.ofText path.text = path.letters :=
  ⟨congrArg Path.letters, congrArg Path.mk⟩

theorem isText_ofText (text : Text) : (ofText text).IsText :=
  congrArg ofText (text_ofText text)

theorem isAbsolute_ofText_text (path : Path) :
    (ofText path.text).isAbsolute = path.isAbsolute := by
  obtain ⟨letters⟩ := path
  cases letters with
  | nil => rfl
  | cons letter rest =>
      have same := Letter.shown_eq_iff (show '/' ≠ '\ufffd' by decide) letter
      simp [isAbsolute, text, same]

/-- What is shown of a joined path is joined of what is shown. -/
theorem ofText_text_join (directory target : Path) :
    ofText (directory.join target).text =
      (ofText directory.text).join (ofText target.text) := by
  have empty : Letters.ofText directory.text = [] ↔ directory.letters = [] := by
    simp [text, Letters.ofText, shown]
  have ends : (Letters.ofText directory.text).getLast? = some (.char '/') ↔
      directory.letters.getLast? = some (.char '/') := by
    have same := Letter.shown_eq_iff (show '/' ≠ '\ufffd' by decide)
    simp [text, Letters.ofText, shown, List.getLast?_map, same]
  unfold join
  rw [isAbsolute_ofText_text]
  simp only [empty, ends]
  split
  · rfl
  · split <;> simp [text, ofText, Letter.shown]

end Path

/-- The course through the names as they are shown. -/
def Course.shown (course : Course) : Course where
  origin := course.origin
  names := course.names.map fun name => Letters.ofText name.shown
  areNames := by
    intro name member
    obtain ⟨source, among, rfl⟩ := List.mem_map.1 member
    exact Letters.isName_ofText_shown (course.areNames source among)

namespace Path

theorem ofText_text_path (course : Course) :
    ofText course.path.text = course.shown.path := by
  have start : Letters.ofText course.origin.start.shown = course.origin.start := by
    cases course.origin <;> rfl
  have pieces : (course.pieces.map Letters.shown).map Letters.ofText = course.shown.pieces := by
    have climb : (course.origin.climb.map Letters.shown).map Letters.ofText =
        course.origin.climb := by
      cases course.origin <;> simp [Origin.climb]
    rw [Course.pieces, List.map_append, List.map_append, climb, List.map_map]
    rfl
  rw [text, Course.path, Letters.shown_append, Letters.shown_joinWith, ofText,
    Letters.ofText_append, start, Letter.shown_char, Letters.ofText_joinWith, pieces]
  rfl

/-- The names of a normal path from the root that is a text are texts. -/
theorem IsRooted.ofText_shown {path : Path} (rooted : path.IsRooted) (isText : path.IsText)
    {name : Letters} (member : name ∈ path.names) : Letters.ofText name.shown = name := by
  have whole : Letters.ofText path.letters.shown = path.letters := isText_iff.1 isText
  rw [Letters.ofText_shown_iff] at whole ⊢
  intro letter within
  apply whole letter
  rw [rooted.eq_fromRoot]
  exact List.mem_cons_of_mem _ (Text.mem_joinWith member within)

theorem isNormal_ofText_text {path : Path} (normal : path.IsNormal) :
    (ofText path.text).IsNormal := by
  obtain ⟨course, rfl⟩ := normal.exists_course
  rw [ofText_text_path]
  exact isNormal_path course.shown

/-- A file in a directory whose name is a stray byte. -/
def inStray (name : String) : Path :=
  ⟨.char '/' :: .stray [0xff] :: .char '/' :: Letters.ofText name.toList⟩

end Path

end Relink
