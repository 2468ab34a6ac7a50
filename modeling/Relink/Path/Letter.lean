import Relink.Text.Split

/-!
# Letters of paths

A file name may be made of any bytes but those of a slash.  So the letters of a path are
characters and, where its bytes encode none, stray bytes.  A text shows stray bytes by the
replacement character, and there is no way back from what is shown.
-/

namespace Relink

/-- A letter of a path: a character, or bytes that encode none, as many as are shown as one. -/
inductive Letter
  | char (symbol : Char)
  | stray (bytes : List UInt8)
deriving DecidableEq, Repr

namespace Letter

def char? : Letter → Option Char
  | char symbol => some symbol
  | stray _ => none

/-- The character that shows a letter. -/
def shown : Letter → Char
  | char symbol => symbol
  | stray _ => '\ufffd'

def byteLength : Letter → Nat
  | char symbol => symbol.utf8Size
  | stray bytes => bytes.length

@[simp] theorem shown_char (symbol : Char) : (char symbol).shown = symbol := rfl

end Letter

abbrev Letters := List Letter

namespace Letters

/-- The letters of a text. -/
def ofText (text : Text) : Letters :=
  text.map .char

/-- The text that the letters make, none if there are stray bytes among them. -/
def text? (letters : Letters) : Option Text :=
  letters.mapM Letter.char?

/-- The text that shows the letters. -/
def shown (letters : Letters) : Text :=
  letters.map Letter.shown

def byteLength (letters : Letters) : Nat :=
  letters.foldl (fun total letter => total + letter.byteLength) 0

@[simp] theorem ofText_nil : ofText [] = [] := rfl

@[simp] theorem ofText_cons (char : Char) (text : Text) :
    ofText (char :: text) = .char char :: ofText text := rfl

@[simp] theorem ofText_append (first second : Text) :
    ofText (first ++ second) = ofText first ++ ofText second :=
  List.map_append

@[simp] theorem shown_nil : shown [] = [] := rfl

@[simp] theorem shown_cons (letter : Letter) (letters : Letters) :
    shown (letter :: letters) = letter.shown :: letters.shown := rfl

@[simp] theorem shown_append (first second : Letters) :
    shown (first ++ second) = shown first ++ shown second :=
  List.map_append

@[simp] theorem shown_ofText (text : Text) : shown (ofText text) = text := by
  induction text with
  | nil => rfl
  | cons char rest ih => rw [ofText_cons, shown_cons, ih, Letter.shown]

theorem ofText_injective {first second : Text} (same : ofText first = ofText second) :
    first = second := by
  rw [← shown_ofText first, same, shown_ofText]

theorem text?_ofText (text : Text) : text? (ofText text) = some text := by
  induction text with
  | nil => rfl
  | cons char rest ih =>
      rw [text?] at ih
      simp [text?, Letter.char?, ih]

theorem eq_ofText_of_text? {letters : Letters} {text : Text} (found : letters.text? = some text) :
    letters = ofText text := by
  induction letters generalizing text with
  | nil =>
      obtain rfl : [] = text := by simpa [text?] using found
      rfl
  | cons letter rest ih =>
      cases letter with
      | stray bytes => simp [text?, Letter.char?] at found
      | char symbol =>
          obtain ⟨behind, read, rfl⟩ : ∃ behind, text? rest = some behind ∧
              symbol :: behind = text := by
            simpa [text?, Letter.char?, Option.bind_eq_some_iff] using found
          rw [ofText_cons, ih read]

end Letters

instance : Coe Text Letters := ⟨Letters.ofText⟩

end Relink
